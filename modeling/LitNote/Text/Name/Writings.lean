import LitNote.Text.Name.Run

/-!
Names of musical and mathematical signs and of late additions to the scripts.
-/

namespace LitNote.Text.Name

def writings : List Run :=
  [⟨0x1D000, ["aBYZANTINE MUSICAL SYMBOL PSILIdDASEIAdPERISPOMENIdOXEIA EKFONITIKONeDIPLI",
    "dVAREIA EKFONITIKONeDIPLIdKATHISTIdSYRMATIKIdPARAKLITIKIdYPOKRISISeDIPLIdKREMASTIdAPESO ",
    "EKFONITIKONdEXO EKFONITIKONdTELEIAdKENTIMATAdAPOSTROFOSeDIPLIdSYNEVMAdTHITAdOLIGON ",
    "ARCHAIONdGORGON ARCHAIONdPSILONdCHAMILONdVATHYdISON ARCHAIONdKENTIMA ARCHAIONdKENTIMATA ",
    "ARCHAIONdSAXIMATAdPARICHONdSTAVROS APODEXIAdOXEIAI ARCHAIONdVAREIAI ARCHAIONdAPODERMA ",
    "ARCHAIONdAPOTHEMAdKLASMAdREVMAdPIASMA ARCHAIONdTINAGMAdANATRICHISMAdSEISMAdSYNAGMA ",
    "ARCHAIONeMETA STAVROUdOYRANISMA ARCHAIONdTHEMAdLEMOIdDYOdTRIAdTESSERAdKRATIMATAdAPESO EXO ",
    "NEOdFTHORA ARCHAIONdIMIFTHORAdTROMIKON ARCHAIONdKATAVA TROMIKONdPELASTONdPSIFISTON",
    "dKONTEVMAdCHOREVMA ARCHAIONdRAPISMAdPARAKALESMA ARCHAIONdPARAKLITIKI ARCHAIONdICHADINdNANA",
    "dPETASMAdKONTEVMA ALLOdTROMIKON ALLOdSTRAGGISMATAdGRONTHISMATAdISON NEOdOLIGON NEOdOXEIA ",
    "NEOdPETASTIdKOUFISMAdPETASTOKOUFISMAdKRATIMOKOUFISMAdPELASTON NEOdKENTIMATA NEO ANO",
    "dKENTIMA NEO ANOdYPSILIdAPOSTROFOS NEOdAPOSTROFOI SYNDESMOS NEOdYPORROIdKRATIMOYPORROON",
    "dELAFRONdCHAMILIdMIKRON ISONdVAREIA NEOdPIASMA NEOdPSIFISTON NEOdOMALONdANTIKENOMAdLYGISMA",
    "dPARAKLITIKI NEOdPARAKALESMA NEOdETERON PARAKALESMAdKYLISMAdANTIKENOKYLISMAdTROMIKON NEO",
    "dEKSTREPTONdSYNAGMA NEOdSYRMAdCHOREVMA NEOdEPEGERMAdSEISMA NEOdXIRON KLASMA",
    "dTROMIKOPSIFISTONdPSIFISTOLYGISMAdTROMIKOLYGISMAdTROMIKOPARAKALESMAdPSIFISTOPARAKALESMA",
    "dTROMIKOSYNAGMAdPSIFISTOSYNAGMAdGORGOSYNTHETONdARGOSYNTHETONdETERON ARGOSYNTHETON",
    "dOYRANISMA NEOdTHEMATISMOS ESOeEXOdTHEMA APLOUNdTHES KAI APOTHESdKATAVASMAdENDOFONONdYFEN ",
    "KATOeANOdSTAVROSdKLASMA ANOdDIPLI ARCHAIONdKRATIMA ARCHAIONeALLOeNEOdAPODERMA NEOdAPLI",
    "dDIPLIdTRIPLIdTETRAPLIdKORONISdLEIMMA ENOS CHRONOUeDYO CHRONONeTRION CHRONONeTESSARON ",
    "CHRONONeIMISEOS CHRONOUdGORGON NEO ANOePARESTIGMENON ARISTERAfDEXIAdDIGORGON",
    "ePARESTIGMENON ARISTERA KATOgANOfDEXIAdTRIGORGONdARGONdIMIDIARGONdDIARGONdAGOGI POLI ARGI",
    "eARGOTERIeARGIeMETRIAeMESIeGORGIeGORGOTERIePOLI GORGIdMARTYRIA PROTOS ICHOSeALLI PROTOS ",
    "ICHOSeDEYTEROS ICHOSeALLI DEYTEROS ICHOSeTRITOS ICHOSeTRIFONIASeTETARTOS ICHOSfLEGETOS ",
    "ICHOSeLEGETOS ICHOSePLAGIOS ICHOSdISAKIA TELOUS ICHIMATOSdAPOSTROFOI TELOUS ICHIMATOS",
    "dFANEROSIS TETRAFONIASeMONOFONIASeDIFONIASdMARTYRIA VARYS ICHOSePROTOVARYS ICHOSePLAGIOS ",
    "TETARTOS ICHOSdGORTHMIKON N APLOUNfDIPLOUNdENARXIS KAI FTHORA VOUdIMIFONONdIMIFTHORON",
    "dFTHORA ARCHAION DEYTEROU ICHOUeDIATONIKI PAfNANAeNAOS ICHOSeDIATONIKI DIeSKLIRON ",
    "DIATONON DIeDIATONIKI KEfZOfNI KATOgANOeMALAKON CHROMA DIFONIASgMONOFONIASdFHTORA SKLIRON ",
    "CHROMA VASISdFTHORA SKLIRON CHROMA SYNAFIeNENANOdCHROA ZYGOSeKLITONeSPATHIdFTHORA I ",
    "YFESIS TETARTIMORIONeENARMONIOS ANTIFONIAdYFESIS TRITIMORIONdDIESIS TRITIMORION",
    "eTETARTIMORIONeAPLI DYO DODEKATAeMONOGRAMMOS TESSERA DODEKATAeDIGRAMMOS EX DODEKATA",
    "eTRIGRAMMOS OKTO DODEKATAdYFESIS APLI DYO DODEKATAeMONOGRAMMOS TESSERA DODEKATAeDIGRAMMOS ",
    "EX DODEKATAeTRIGRAMMOS OKTO DODEKATAdGENIKI DIESISeYFESISdDIASTOLI APLI MIKRIfMEGALIeDIPLI",
    "eTHESEOSdSIMANSIS THESEOSfDISIMOUfTRISIMOUfTETRASIMOUeARSEOSfDISIMOUfTRISIMOUfTETRASIMOU",
    "dDIGRAMMA GGdDIFTOGGOS OUdSTIGMAdARKTIKO PAeVOUeGAeDIeKEeZOeNIdKENTIMATA NEO MESOdKENTIMA ",
    "NEO MESOdKENTIMATA NEO KATOdKENTIMA NEO KATOdKLASMA KATOdGORGON NEO KATO"]⟩,
   ⟨0x1D100, ["aMUSICAL SYMBOL SINGLE BARLINEcDOUBLE BARLINEcFINAL BARLINEcREVERSE FINAL ",
    "BARLINEcDASHED BARLINEcSHORT BARLINEcLEFT REPEAT SIGNcRIGHT REPEAT SIGNcREPEAT DOTScDAL ",
    "SEGNOcDA CAPOcSEGNOcCODAcREPEATED FIGURE-1dFIGURE-2dFIGURE-3cFERMATAdBELOWcBREATH MARK",
    "cCAESURAcBRACEcBRACKETcONE-LINE STAFFcTWO-LINE STAFFcTHREE-LINE STAFFcFOUR-LINE STAFF",
    "cFIVE-LINE STAFFcSIX-LINE STAFFcSIX-STRING FRETBOARDcFOUR-STRING FRETBOARDcG CLEFeOTTAVA ",
    "ALTAfBASSAcC CLEFcF CLEFeOTTAVA ALTAfBASSAcDRUM CLEF-1dCLEF-2"]⟩,
   ⟨0x1D129, ["aMUSICAL SYMBOL MULTIPLE MEASURE RESTcDOUBLE SHARPdFLATcFLAT UPdDOWNcNATURAL UP",
    "dDOWNcSHARP UPdDOWNcQUARTER TONE SHARPeFLATcCOMMON TIMEcCUT TIMEcOTTAVA ALTAdBASSA",
    "cQUINDICESIMA ALTAdBASSAcMULTI RESTcWHOLE RESTcHALF RESTcQUARTER RESTcEIGHTH REST",
    "cSIXTEENTH RESTcTHIRTY-SECOND RESTcSIXTY-FOURTH RESTcONE HUNDRED TWENTY-EIGHTH RESTcX ",
    "NOTEHEADcPLUS NOTEHEADcCIRCLE X NOTEHEADcSQUARE NOTEHEAD WHITEeBLACKcTRIANGLE NOTEHEAD UP ",
    "WHITEfBLACKeLEFT WHITEfBLACKeRIGHT WHITEfBLACKeDOWN WHITEfBLACKeUP RIGHT WHITEgBLACKcMOON ",
    "NOTEHEAD WHITEeBLACKcTRIANGLE-ROUND NOTEHEAD DOWN WHITEfBLACKcPARENTHESIS NOTEHEADcVOID ",
    "NOTEHEADcNOTEHEAD BLACKcNULL NOTEHEADcCLUSTER NOTEHEAD WHITEeBLACKcBREVEcWHOLE NOTEcHALF ",
    "NOTEcQUARTER NOTEcEIGHTH NOTEcSIXTEENTH NOTEcTHIRTY-SECOND NOTEcSIXTY-FOURTH NOTEcONE ",
    "HUNDRED TWENTY-EIGHTH NOTEcCOMBINING STEMdSPRECHGESANG STEMdTREMOLO-1dTREMOLO-2dTREMOLO-3",
    "cFINGERED TREMOLO-1dTREMOLO-2dTREMOLO-3cCOMBINING AUGMENTATION DOTdFLAG-1dFLAG-2dFLAG-3",
    "dFLAG-4dFLAG-5cBEGIN BEAMcEND BEAMcBEGIN TIEcEND TIEcBEGIN SLURcEND SLURcBEGIN PHRASEcEND ",
    "PHRASEcCOMBINING ACCENTdSTACCATOdTENUTOdSTACCATISSIMOdMARCATOdMARCATO-STACCATO",
    "dACCENT-STACCATOdLOUREcARPEGGIATO UPdDOWNcCOMBINING DOITdRIPdFLIPdSMEARdBENDdDOUBLE TONGUE",
    "dTRIPLE TONGUEcRINFORZANDOcSUBITOcZcPIANOcMEZZOcFORTEcCRESCENDOcDECRESCENDOcGRACE NOTE ",
    "SLASHeNO SLASHcTRcTURNcINVERTED TURNcTURN SLASHdUPcORNAMENT STROKE-1dSTROKE-2dSTROKE-3",
    "dSTROKE-4dSTROKE-5dSTROKE-6dSTROKE-7dSTROKE-8dSTROKE-9dSTROKE-10dSTROKE-11cHAUPTSTIMME",
    "cNEBENSTIMMEcEND OF STIMMEcDEGREE SLASHcCOMBINING DOWN BOWdUP BOWdHARMONICdSNAP PIZZICATO",
    "cPEDAL MARKdUP MARKcHALF PEDAL MARKcGLISSANDO UPdDOWNcWITH FINGERNAILScDAMPdALLcMAXIMA",
    "cLONGAcBREVIScSEMIBREVIS WHITEdBLACKcMINIMAdBLACKcSEMIMINIMA WHITEdBLACKcFUSA WHITEdBLACK",
    "cLONGA PERFECTA RESTdIMPERFECTA RESTcBREVIS RESTcSEMIBREVIS RESTcMINIMA RESTcSEMIMINIMA ",
    "RESTcTEMPUS PERFECTUM CUM PROLATIONE PERFECTAgIMPERFECTAgPERFECTA DIMINUTION-1",
    "dIMPERFECTUM CUM PROLATIONE PERFECTAgIMPERFECTAhDIMINUTION-1hDIMINUTION-2hDIMINUTION-3",
    "cCROIXcGREGORIAN C CLEFdF CLEFcSQUARE BcVIRGAcPODATUScCLIVIScSCANDICUScCLIMACUScTORCULUS",
    "cPORRECTUSdFLEXUScSCANDICUS FLEXUScTORCULUS RESUPINUScPES SUBPUNCTIScKIEVAN C CLEFdEND OF ",
    "PIECEdFINAL NOTEdRECITATIVE MARKdWHOLE NOTEdHALF NOTEdQUARTER NOTE STEM DOWNgUPdEIGHTH ",
    "NOTE STEM DOWNgUPdFLAT SIGNcSORIcKORON"]⟩,
   ⟨0x1D200, ["aGREEK VOCAL NOTATION SYMBOL-1dSYMBOL-2dSYMBOL-3dSYMBOL-4dSYMBOL-5dSYMBOL-6",
    "dSYMBOL-7dSYMBOL-8dSYMBOL-9dSYMBOL-10dSYMBOL-11dSYMBOL-12dSYMBOL-13dSYMBOL-14dSYMBOL-15",
    "dSYMBOL-16dSYMBOL-17dSYMBOL-18dSYMBOL-19dSYMBOL-20dSYMBOL-21dSYMBOL-22dSYMBOL-23dSYMBOL-24",
    "dSYMBOL-50dSYMBOL-51dSYMBOL-52dSYMBOL-53dSYMBOL-54bINSTRUMENTAL NOTATION SYMBOL-1dSYMBOL-2",
    "dSYMBOL-4dSYMBOL-5dSYMBOL-7dSYMBOL-8dSYMBOL-11dSYMBOL-12dSYMBOL-13dSYMBOL-14dSYMBOL-17",
    "dSYMBOL-18dSYMBOL-19dSYMBOL-23dSYMBOL-24dSYMBOL-25dSYMBOL-26dSYMBOL-27dSYMBOL-29dSYMBOL-30",
    "dSYMBOL-32dSYMBOL-36dSYMBOL-37dSYMBOL-38dSYMBOL-39dSYMBOL-40dSYMBOL-42dSYMBOL-43dSYMBOL-45",
    "dSYMBOL-47dSYMBOL-48dSYMBOL-49dSYMBOL-50dSYMBOL-51dSYMBOL-52dSYMBOL-53dSYMBOL-54",
    "aCOMBINING GREEK MUSICAL TRISEMEdTETRASEMEdPENTASEMEaGREEK MUSICAL LEIMMA"]⟩,
   ⟨0x1D2E0, ["aMAYAN NUMERAL ZEROcONEcTWOcTHREEcFOURcFIVEcSIXcSEVENcEIGHTcNINEcTENcELEVEN",
    "cTWELVEcTHIRTEENcFOURTEENcFIFTEENcSIXTEENcSEVENTEENcEIGHTEENcNINETEEN"]⟩,
   ⟨0x1D300, ["aMONOGRAM FOR EARTHaDIGRAM FOR HEAVENLY EARTHcHUMAN EARTHcEARTHLY HEAVENdHUMAN",
    "cEARTHaTETRAGRAM FOR CENTREcFULL CIRCLEcMIREDcBARRIERcKEEPING SMALLcCONTRARIETYcASCENT",
    "cOPPOSITIONcBRANCHING OUTcDEFECTIVENESS OR DISTORTIONcDIVERGENCEcYOUTHFULNESScINCREASE",
    "cPENETRATIONcREACHcCONTACTcHOLDING BACKcWAITINGcFOLLOWINGcADVANCEcRELEASEcRESISTANCEcEASE",
    "cJOYcCONTENTIONcENDEAVOURcDUTIEScCHANGEcDECISIVENESScBOLD RESOLUTIONcPACKINGcLEGION",
    "cCLOSENESScKINSHIPcGATHERINGcSTRENGTHcPURITYcFULLNESScRESIDENCEcLAW OR MODELcRESPONSE",
    "cGOING TO MEETcENCOUNTERScSTOVEcGREATNESScENLARGEMENTcPATTERNcRITUALcFLIGHTcVASTNESS OR ",
    "WASTINGcCONSTANCYcMEASUREcETERNITYcUNITYcDIMINISHMENTcCLOSED MOUTHcGUARDEDNESScGATHERING ",
    "INcMASSINGcACCUMULATIONcEMBELLISHMENTcDOUBTcWATCHcSINKINGcINNERcDEPARTUREcDARKENING",
    "cDIMMINGcEXHAUSTIONcSEVERANCEcSTOPPAGEcHARDNESScCOMPLETIONcCLOSUREcFAILUREcAGGRAVATION",
    "cCOMPLIANCEcON THE VERGEcDIFFICULTIEScLABOURINGcFOSTERING"]⟩,
   ⟨0x1D360, ["aCOUNTING ROD UNIT DIGIT ONEeTWOeTHREEeFOUReFIVEeSIXeSEVENeEIGHTeNINEcTENS ",
    "DIGIT ONEeTWOeTHREEeFOUReFIVEeSIXeSEVENeEIGHTeNINEaIDEOGRAPHIC TALLY MARK ONEdTWOdTHREE",
    "dFOURdFIVEaTALLY MARK ONEcFIVE"]⟩,
   ⟨0x1D400, ["aMATHEMATICAL BOLD CAPITAL AdBdCdDdEdFdGdHdIdJdKdLdMdNdOdPdQdRdSdTdUdVdWdXdYdZ",
    "cSMALL AdBdCdDdEdFdGdHdIdJdKdLdMdNdOdPdQdRdSdTdUdVdWdXdYdZbITALIC CAPITAL AdBdCdDdEdFdGdH",
    "dIdJdKdLdMdNdOdPdQdRdSdTdUdVdWdXdYdZcSMALL AdBdCdDdEdFdG"]⟩,
   ⟨0x1D456, ["aMATHEMATICAL ITALIC SMALL IdJdKdLdMdNdOdPdQdRdSdTdUdVdWdXdYdZbBOLD ITALIC ",
    "CAPITAL AeBeCeDeEeFeGeHeIeJeKeLeMeNeOePeQeReSeTeUeVeWeXeYeZdSMALL AeBeCeDeEeFeGeHeIeJeKeL",
    "eMeNeOePeQeReSeTeUeVeWeXeYeZbSCRIPT CAPITAL A"]⟩,
   ⟨0x1D49E, ["aMATHEMATICAL SCRIPT CAPITAL CdD"]⟩, ⟨0x1D4A2, ["aMATHEMATICAL SCRIPT CAPITAL G"]⟩,
   ⟨0x1D4A5, ["aMATHEMATICAL SCRIPT CAPITAL JdK"]⟩,
   ⟨0x1D4A9, ["aMATHEMATICAL SCRIPT CAPITAL NdOdPdQ"]⟩,
   ⟨0x1D4AE, ["aMATHEMATICAL SCRIPT CAPITAL SdTdUdVdWdXdYdZcSMALL AdBdCdD"]⟩,
   ⟨0x1D4BB, ["aMATHEMATICAL SCRIPT SMALL F"]⟩,
   ⟨0x1D4BD, ["aMATHEMATICAL SCRIPT SMALL HdIdJdKdLdMdN"]⟩,
   ⟨0x1D4C5, ["aMATHEMATICAL SCRIPT SMALL PdQdRdSdTdUdVdWdXdYdZbBOLD SCRIPT CAPITAL AeBeCeDeE",
    "eFeGeHeIeJeKeLeMeNeOePeQeReSeTeUeVeWeXeYeZdSMALL AeBeCeDeEeFeGeHeIeJeKeLeMeNeOePeQeReSeTeU",
    "eVeWeXeYeZbFRAKTUR CAPITAL AdB"]⟩,
   ⟨0x1D507, ["aMATHEMATICAL FRAKTUR CAPITAL DdEdFdG"]⟩,
   ⟨0x1D50D, ["aMATHEMATICAL FRAKTUR CAPITAL JdKdLdMdNdOdPdQ"]⟩,
   ⟨0x1D516, ["aMATHEMATICAL FRAKTUR CAPITAL SdTdUdVdWdXdY"]⟩,
   ⟨0x1D51E, ["aMATHEMATICAL FRAKTUR SMALL AdBdCdDdEdFdGdHdIdJdKdLdMdNdOdPdQdRdSdTdUdVdWdXdYdZ",
    "bDOUBLE-STRUCK CAPITAL AdB"]⟩,
   ⟨0x1D53B, ["aMATHEMATICAL DOUBLE-STRUCK CAPITAL DdEdFdG"]⟩,
   ⟨0x1D540, ["aMATHEMATICAL DOUBLE-STRUCK CAPITAL IdJdKdLdM"]⟩,
   ⟨0x1D546, ["aMATHEMATICAL DOUBLE-STRUCK CAPITAL O"]⟩,
   ⟨0x1D54A, ["aMATHEMATICAL DOUBLE-STRUCK CAPITAL SdTdUdVdWdXdY"]⟩,
   ⟨0x1D552, ["aMATHEMATICAL DOUBLE-STRUCK SMALL AdBdCdDdEdFdGdHdIdJdKdLdMdNdOdPdQdRdSdTdUdVdW",
    "dXdYdZbBOLD FRAKTUR CAPITAL AeBeCeDeEeFeGeHeIeJeKeLeMeNeOePeQeReSeTeUeVeWeXeYeZdSMALL AeB",
    "eCeDeEeFeGeHeIeJeKeLeMeNeOePeQeReSeTeUeVeWeXeYeZbSANS-SERIF CAPITAL AdBdCdDdEdFdGdHdIdJdK",
    "dLdMdNdOdPdQdRdSdTdUdVdWdXdYdZcSMALL AdBdCdDdEdFdGdHdIdJdKdLdMdNdOdPdQdRdSdTdUdVdWdXdYdZ",
    "cBOLD CAPITAL AeBeCeDeEeFeGeHeIeJeKeLeMeNeOePeQeReSeTeUeVeWeXeYeZdSMALL AeBeCeDeEeFeGeHeI",
    "eJeKeLeMeNeOePeQeReSeTeUeVeWeXeYeZcITALIC CAPITAL AeBeCeDeEeFeGeHeIeJeKeLeMeNeOePeQeReSeT",
    "eUeVeWeXeYeZdSMALL AeBeCeDeEeFeGeHeIeJeKeLeMeNeOePeQeReSeTeUeVeWeXeYeZcBOLD ITALIC ",
    "CAPITAL AfBfCfDfEfFfGfHfIfJfKfLfMfNfOfPfQfRfSfTfUfVfWfXfYfZeSMALL AfBfCfDfEfFfGfHfIfJfKfL",
    "fMfNfOfPfQfRfSfTfUfVfWfXfYfZbMONOSPACE CAPITAL AdBdCdDdEdFdGdHdIdJdKdLdMdNdOdPdQdRdSdTdUdV",
    "dWdXdYdZcSMALL AdBdCdDdEdFdGdHdIdJdKdLdMdNdOdPdQdRdSdTdUdVdWdXdYdZbITALIC SMALL DOTLESS I",
    "eJ"]⟩,
   ⟨0x1D6A8, ["aMATHEMATICAL BOLD CAPITAL ALPHAdBETAdGAMMAdDELTAdEPSILONdZETAdETAdTHETAdIOTA",
    "dKAPPAdLAMDAdMUdNUdXIdOMICRONdPIdRHOdTHETA SYMBOLdSIGMAdTAUdUPSILONdPHIdCHIdPSIdOMEGA",
    "cNABLAcSMALL ALPHAdBETAdGAMMAdDELTAdEPSILONdZETAdETAdTHETAdIOTAdKAPPAdLAMDAdMUdNUdXI",
    "dOMICRONdPIdRHOdFINAL SIGMAdSIGMAdTAUdUPSILONdPHIdCHIdPSIdOMEGAcPARTIAL DIFFERENTIAL",
    "cEPSILON SYMBOLcTHETA SYMBOLcKAPPA SYMBOLcPHI SYMBOLcRHO SYMBOLcPI SYMBOLbITALIC CAPITAL ",
    "ALPHAdBETAdGAMMAdDELTAdEPSILONdZETAdETAdTHETAdIOTAdKAPPAdLAMDAdMUdNUdXIdOMICRONdPIdRHO",
    "dTHETA SYMBOLdSIGMAdTAUdUPSILONdPHIdCHIdPSIdOMEGAcNABLAcSMALL ALPHAdBETAdGAMMAdDELTA",
    "dEPSILONdZETAdETAdTHETAdIOTAdKAPPAdLAMDAdMUdNUdXIdOMICRONdPIdRHOdFINAL SIGMAdSIGMAdTAU",
    "dUPSILONdPHIdCHIdPSIdOMEGAcPARTIAL DIFFERENTIALcEPSILON SYMBOLcTHETA SYMBOLcKAPPA SYMBOL",
    "cPHI SYMBOLcRHO SYMBOLcPI SYMBOLbBOLD ITALIC CAPITAL ALPHAeBETAeGAMMAeDELTAeEPSILONeZETA",
    "eETAeTHETAeIOTAeKAPPAeLAMDAeMUeNUeXIeOMICRONePIeRHOeTHETA SYMBOLeSIGMAeTAUeUPSILONePHIeCHI",
    "ePSIeOMEGAdNABLAdSMALL ALPHAeBETAeGAMMAeDELTAeEPSILONeZETAeETAeTHETAeIOTAeKAPPAeLAMDAeMU",
    "eNUeXIeOMICRONePIeRHOeFINAL SIGMAeSIGMAeTAUeUPSILONePHIeCHIePSIeOMEGAdPARTIAL DIFFERENTIAL",
    "dEPSILON SYMBOLdTHETA SYMBOLdKAPPA SYMBOLdPHI SYMBOLdRHO SYMBOLdPI SYMBOLbSANS-SERIF BOLD ",
    "CAPITAL ALPHAeBETAeGAMMAeDELTAeEPSILONeZETAeETAeTHETAeIOTAeKAPPAeLAMDAeMUeNUeXIeOMICRONePI",
    "eRHOeTHETA SYMBOLeSIGMAeTAUeUPSILONePHIeCHIePSIeOMEGAdNABLAdSMALL ALPHAeBETAeGAMMAeDELTA",
    "eEPSILONeZETAeETAeTHETAeIOTAeKAPPAeLAMDAeMUeNUeXIeOMICRONePIeRHOeFINAL SIGMAeSIGMAeTAU",
    "eUPSILONePHIeCHIePSIeOMEGAdPARTIAL DIFFERENTIALdEPSILON SYMBOLdTHETA SYMBOLdKAPPA SYMBOL",
    "dPHI SYMBOLdRHO SYMBOLdPI SYMBOLdITALIC CAPITAL ALPHAfBETAfGAMMAfDELTAfEPSILONfZETAfETA",
    "fTHETAfIOTAfKAPPAfLAMDAfMUfNUfXIfOMICRONfPIfRHOfTHETA SYMBOLfSIGMAfTAUfUPSILONfPHIfCHIfPSI",
    "fOMEGAeNABLAeSMALL ALPHAfBETAfGAMMAfDELTAfEPSILONfZETAfETAfTHETAfIOTAfKAPPAfLAMDAfMUfNUfXI",
    "fOMICRONfPIfRHOfFINAL SIGMAfSIGMAfTAUfUPSILONfPHIfCHIfPSIfOMEGAePARTIAL DIFFERENTIAL",
    "eEPSILON SYMBOLeTHETA SYMBOLeKAPPA SYMBOLePHI SYMBOLeRHO SYMBOLePI SYMBOLbBOLD CAPITAL ",
    "DIGAMMAcSMALL DIGAMMA"]⟩,
   ⟨0x1D7CE, ["aMATHEMATICAL BOLD DIGIT ZEROdONEdTWOdTHREEdFOURdFIVEdSIXdSEVENdEIGHTdNINE",
    "bDOUBLE-STRUCK DIGIT ZEROdONEdTWOdTHREEdFOURdFIVEdSIXdSEVENdEIGHTdNINEbSANS-SERIF DIGIT ",
    "ZEROdONEdTWOdTHREEdFOURdFIVEdSIXdSEVENdEIGHTdNINEcBOLD DIGIT ZEROeONEeTWOeTHREEeFOUReFIVE",
    "eSIXeSEVENeEIGHTeNINEbMONOSPACE DIGIT ZEROdONEdTWOdTHREEdFOURdFIVEdSIXdSEVENdEIGHTdNINE",
    "aSIGNWRITING HAND-FIST INDEXbHAND-CIRCLE INDEXbHAND-CUP INDEXbHAND-OVAL INDEXbHAND-HINGE ",
    "INDEXbHAND-ANGLE INDEXbHAND-FIST INDEX BENTbHAND-CIRCLE INDEX BENTbHAND-FIST THUMB UNDER ",
    "INDEX BENTcINDEX RAISED KNUCKLEdCUPPEDdHINGEDeLOWbHAND-CIRCLE INDEX HINGEbHAND-FIST INDEX ",
    "MIDDLEbHAND-CIRCLE INDEX MIDDLEbHAND-FIST INDEX MIDDLE BENTeRAISED KNUCKLESeHINGEDdUP ",
    "MIDDLE HINGEDdHINGED MIDDLE UPdMIDDLE CONJOINEDfINDEX BENTfMIDDLE BENTfCUPPEDfHINGED",
    "eCROSSEDbHAND-CIRCLE INDEX MIDDLE CROSSEDbHAND-FIST MIDDLE BENT OVER INDEXcINDEX BENT ",
    "OVER MIDDLEdMIDDLE THUMBbHAND-CIRCLE INDEX MIDDLE THUMBbHAND-FIST INDEX MIDDLE STRAIGHT ",
    "THUMB BENTeBENT THUMB STRAIGHTeTHUMB BENTeHINGED SPREAD THUMB SIDEdUP MIDDLE HINGED THUMB ",
    "SIDEhCONJOINEDdHINGED MIDDLE UP THUMB SIDEdMIDDLE UP SPREAD THUMB FORWARDeTHUMB CUPPED",
    "fCIRCLEDfHOOKEDfHINGEDcTHUMB BETWEEN INDEX MIDDLE STRAIGHTcINDEX MIDDLE CONJOINED THUMB ",
    "SIDEhCONJOINEDhBENTcMIDDLE THUMB HOOKED INDEX UPcINDEX THUMB HOOKED MIDDLE UPdMIDDLE ",
    "CONJOINED HINGED THUMB SIDEeCROSSED THUMB SIDEeCONJOINED THUMB FORWARDfCUPPED THUMB ",
    "FORWARDcMIDDLE THUMB CUPPED INDEX UPcINDEX THUMB CUPPED MIDDLE UPcMIDDLE THUMB CIRCLED ",
    "INDEX UPgHINGEDcINDEX THUMB ANGLED OUT MIDDLE UPfIN MIDDLE UPeCIRCLED MIDDLE UPdMIDDLE ",
    "THUMB CONJOINED HINGEDfANGLED OUTgcMIDDLE THUMB ANGLED OUT INDEX UPhCROSSEDfINDEX UP",
    "cINDEX THUMB HOOKED MIDDLE HINGEDbHAND-FLAT FOUR FINGERSeBENTeHINGEDeCONJOINEDfSPLIT",
    "bHAND-CLAW FOUR FINGERS CONJOINEDbHAND-FIST FOUR FINGERS CONJOINED BENTbHAND-HINGE FOUR ",
    "FINGERS CONJOINEDbHAND-FLAT FIVE FINGERS SPREADcHEEL FIVE FINGERS SPREADcFIVE FINGERS ",
    "SPREAD FOUR BENTcHEEL FIVE FINGERS SPREAD FOUR BENTcFIVE FINGERS SPREAD BENTcHEEL FIVE ",
    "FINGERS SPREAD BENTcFIVE FINGERS SPREAD THUMB FORWARDbHAND-CUP FIVE FINGERS SPREADfOPEN",
    "bHAND-HINGE FIVE FINGERS SPREAD OPENbHAND-OVAL FIVE FINGERS SPREADbHAND-FLAT FIVE FINGERS ",
    "SPREAD HINGEDgTHUMB SIDEgNO THUMBccBETWEEN PALM FACINGScHEELcTHUMB SIDEcHEEL THUMB SIDE",
    "cTHUMB BENTdFORWARDcSPLIT INDEX THUMB SIDEdCENTREeTHUMB SIDEgBENTdLITTLEbHAND-CLAWcTHUMB ",
    "SIDEcNO THUMBcTHUMB FORWARDbHAND-HOOK CURLICUEcbHAND-CUP OPENccOPEN THUMB SIDEcTHUMB SIDE",
    "cOPEN NO THUMBcNO THUMBcOPEN THUMB FORWARDcTHUMB FORWARDbHAND-CURLICUE OPENcbHAND-CIRCLE",
    "bHAND-OVALcTHUMB SIDEcNO THUMBcTHUMB FORWARDbHAND-HINGE OPENdTHUMB FORWARDccSMALLcOPEN ",
    "THUMB SIDEcTHUMB SIDEcOPEN NO THUMBcNO THUMBcTHUMB SIDE TOUCHING INDEXdBETWEEN MIDDLE RING",
    "bHAND-ANGLEbHAND-FIST INDEX MIDDLE RINGbHAND-CIRCLE INDEX MIDDLE RINGbHAND-HINGE INDEX ",
    "MIDDLE RINGbHAND-ANGLE INDEX MIDDLE RINGbHAND-HINGE LITTLEbHAND-FIST INDEX MIDDLE RING ",
    "BENTfCONJOINEDbHAND-HINGE INDEX MIDDLE RING CONJOINEDbHAND-FIST LITTLE DOWNeRIPPLE ",
    "STRAIGHTfCURVEDeOTHERS CIRCLEDdUPcTHUMB UNDER LITTLE UPbHAND-CIRCLE LITTLE UPbHAND-OVAL ",
    "LITTLE UPbHAND-ANGLE LITTLE UPbHAND-FIST LITTLE RAISED KNUCKLEdBENTdTOUCHES THUMBdTHUMB",
    "bHAND-HINGE LITTLE THUMBbHAND-FIST LITTLE INDEX THUMBbHAND-HINGE LITTLE INDEX THUMB",
    "bHAND-ANGLE LITTLE INDEX THUMB INDEX THUMB OUThbHAND-FIST LITTLE INDEXbHAND-CIRCLE LITTLE ",
    "INDEXbHAND-HINGE LITTLE INDEXbHAND-ANGLE LITTLE INDEXbHAND-FIST INDEX MIDDLE LITTLE",
    "bHAND-CIRCLE INDEX MIDDLE LITTLEbHAND-HINGE INDEX MIDDLE LITTLEcRINGbHAND-ANGLE INDEX ",
    "MIDDLE LITTLEbHAND-FIST INDEX MIDDLE CROSS LITTLEbHAND-CIRCLE INDEX MIDDLE CROSS LITTLE",
    "bHAND-FIST RING DOWNbHAND-HINGE RING DOWN INDEX THUMB HOOK MIDDLEbHAND-ANGLE RING DOWN ",
    "MIDDLE THUMB INDEX CROSSbHAND-FIST RING UPdRAISED KNUCKLEdLITTLEbHAND-CIRCLE RING LITTLE",
    "bHAND-OVAL RING LITTLEbHAND-ANGLE RING LITTLEbHAND-FIST RING MIDDLEeCONJOINEDeRAISED ",
    "KNUCKLESdINDEXdTHUMBbHAND-HOOK RING THUMBbHAND-FIST INDEX RING LITTLEbHAND-CIRCLE INDEX ",
    "RING LITTLEbHAND-CURLICUE INDEX RING LITTLE ONbHAND-HOOK INDEX RING LITTLE OUTfINfUNDER",
    "bHAND-CUP INDEX RING LITTLEbHAND-HINGE INDEX RING LITTLEbHAND-ANGLE INDEX RING LITTLE OUTf",
    "bHAND-FIST MIDDLE DOWNbHAND-HINGE MIDDLEbHAND-FIST MIDDLE UPbHAND-CIRCLE MIDDLE UP",
    "bHAND-FIST MIDDLE RAISED KNUCKLEdUP THUMB SIDEbHAND-HOOK MIDDLE THUMBbHAND-FIST MIDDLE ",
    "THUMB LITTLEdLITTLEdRING LITTLEbHAND-CIRCLE MIDDLE RING LITTLEbHAND-CURLICUE MIDDLE RING ",
    "LITTLE ONbHAND-CUP MIDDLE RING LITTLEbHAND-HINGE MIDDLE RING LITTLEbHAND-ANGLE MIDDLE ",
    "RING LITTLE OUTfINfbHAND-CIRCLE MIDDLE RING LITTLE BENTbHAND-CLAW MIDDLE RING LITTLE ",
    "CONJOINEDgSIDEbHAND-HOOK MIDDLE RING LITTLE CONJOINED OUTgINgbHAND-HINGE INDEX HINGED",
    "bHAND-FIST INDEX THUMB SIDEbHAND-HINGE INDEX THUMB SIDEbHAND-FIST INDEX THUMB SIDE THUMB ",
    "DIAGONALgCONJOINEDgBENTfINDEX BENTfBOTH BENTfINDEX HINGEeFORWARD INDEX STRAIGHTgBENTeHOOK",
    "eCURLICUEeCURVE THUMB INSIDEbHAND-CLAW INDEX THUMB CURVE THUMB INSIDEbHAND-FIST INDEX ",
    "THUMB CURVE THUMB UNDEReCIRCLEbHAND-CUP INDEX THUMBeOPENbHAND-HINGE INDEX THUMB OPENeLARGE",
    "eeSMALLbHAND-ANGLE INDEX THUMB OUTeINebHAND-FIST THUMBdHEELdSIDE DIAGONALeCONJOINEDeBENT",
    "dFORWARDdBETWEEN INDEX MIDDLEeMIDDLE RINGeRING LITTLEdUNDER TWO FINGERSdOVER TWO FINGERS",
    "dUNDER THREE FINGERSeFOUR FINGERSdOVER FOUR RAISED KNUCKLESccHEELbTOUCH SINGLEcMULTIPLE",
    "cBETWEENbGRASP SINGLEcMULTIPLEcBETWEENbSTRIKE SINGLEcMULTIPLEcBETWEENbBRUSH SINGLE",
    "cMULTIPLEcBETWEENbRUB SINGLEcMULTIPLEcBETWEENbSURFACE SYMBOLScBETWEENbSQUEEZE LARGE SINGLE",
    "cSMALL SINGLEcLARGE MULTIPLEcSMALL MULTIPLEcSEQUENTIALbFLICK LARGE SINGLEcSMALL SINGLE",
    "cLARGE MULTIPLEcSMALL MULTIPLEcSEQUENTIALbSQUEEZE FLICK ALTERNATINGbMOVEMENT-HINGE UP ",
    "DOWN LARGEeSMALLdSEQUENTIALcDOWN SEQUENTIALcUP DOWN ALTERNATING LARGEfSMALLcSIDE TO SIDE ",
    "SCISSORSbMOVEMENT-WALLPLANE FINGER CONTACTbMOVEMENT-FLOORPLANE FINGER CONTACT",
    "bMOVEMENT-WALLPLANE SINGLE STRAIGHT SMALLeMEDIUMeLARGEeLARGESTdWRIST FLEXcDOUBLE STRAIGHT",
    "dWRIST FLEXdALTERNATINGeWRIST FLEXcCROSScTRIPLE STRAIGHT MOVEMENTdWRIST FLEXdALTERNATING",
    "eWRIST FLEXcBEND SMALLdMEDIUMdLARGEcCORNER SMALLdMEDIUMdLARGEdROTATIONcCHECK SMALLdMEDIUM",
    "dLARGEcBOX SMALLdMEDIUMdLARGEcZIGZAG SMALLdMEDIUMdLARGEcPEAKS SMALLdMEDIUMdLARGE",
    "bTRAVEL-WALLPLANE ROTATION-WALLPLANE SINGLEdDOUBLEdALTERNATINGcROTATION-FLOORPLANE SINGLE",
    "dDOUBLEdALTERNATINGcSHAKINGcARM SPIRAL SINGLEeDOUBLEeTRIPLEbMOVEMENT-DIAGONAL AWAY SMALL",
    "dMEDIUMdLARGEdLARGESTcTOWARDS SMALLdMEDIUMdLARGEdLARGESTcBETWEEN AWAY SMALLeMEDIUMeLARGE",
    "eLARGESTdTOWARDS SMALLeMEDIUMeLARGEeLARGESTbMOVEMENT-FLOORPLANE SINGLE STRAIGHT SMALL",
    "eMEDIUMeLARGEeLARGESTdWRIST FLEXcDOUBLE STRAIGHTdWRIST FLEXdALTERNATINGeWRIST FLEXcCROSS",
    "cTRIPLE STRAIGHT MOVEMENTdWRIST FLEXdALTERNATING MOVEMENTeWRIST FLEXcBENDcCORNER SMALL",
    "dMEDIUMdLARGEcCHECKcBOX SMALLdMEDIUMdLARGEcZIGZAG SMALLdMEDIUMdLARGEcPEAKS SMALLdMEDIUM",
    "dLARGEbTRAVEL-FLOORPLANE ROTATION-FLOORPLANE SINGLEdDOUBLEdALTERNATINGcROTATION-WALLPLANE ",
    "SINGLEdDOUBLEdALTERNATINGcSHAKINGbMOVEMENT-WALLPLANE CURVE QUARTER SMALLeMEDIUMeLARGE",
    "eLARGESTdHALF-CIRCLE SMALLeMEDIUMeLARGEeLARGESTdTHREE-QUARTER CIRCLE SMALLfMEDIUMcHUMP ",
    "SMALLdMEDIUMdLARGEcLOOP SMALLdMEDIUMdLARGEdSMALL DOUBLEcWAVE CURVE DOUBLE SMALLfMEDIUM",
    "fLARGEeTRIPLE SMALLfMEDIUMfLARGEcCURVE THEN STRAIGHTcCURVED CROSS SMALLeMEDIUM",
    "bROTATION-WALLPLANE SINGLEcDOUBLEcALTERNATEbMOVEMENT-WALLPLANE SHAKINGcCURVE HITTING ",
    "FRONT WALLcHUMP HITTING FRONT WALLcLOOP HITTING FRONT WALLcWAVE HITTING FRONT WALL",
    "bROTATION-WALLPLANE SINGLE HITTING FRONT WALLcDOUBLE HITTING FRONT WALLcALTERNATING ",
    "HITTING FRONT WALLbMOVEMENT-WALLPLANE CURVE HITTING CHESTcHUMP HITTING CHESTcLOOP HITTING ",
    "CHESTcWAVE HITTING CHESTbROTATION-WALLPLANE SINGLE HITTING CHESTcDOUBLE HITTING CHEST",
    "cALTERNATING HITTING CHESTbMOVEMENT-WALLPLANE WAVE DIAGONAL PATH SMALLfMEDIUMfLARGE",
    "bMOVEMENT-FLOORPLANE CURVE HITTING CEILING SMALLfLARGEcHUMP HITTING CEILING SMALL DOUBLE",
    "fLARGE DOUBLEfSMALL TRIPLEfLARGE TRIPLEcLOOP HITTING CEILING SMALL SINGLEfLARGE SINGLE",
    "fSMALL DOUBLEfLARGE DOUBLEcWAVE HITTING CEILING SMALLfLARGEbROTATION-FLOORPLANE SINGLE ",
    "HITTING CEILINGcDOUBLE HITTING CEILINGcALTERNATING HITTING CEILINGbMOVEMENT-FLOORPLANE ",
    "CURVE HITTING FLOOR SMALLfLARGEcHUMP HITTING FLOOR SMALL DOUBLEfLARGE DOUBLEfTRIPLE SMALL ",
    "TRIPLEgLARGE TRIPLEcLOOP HITTING FLOOR SMALL SINGLEfLARGE SINGLEfSMALL DOUBLEfLARGE DOUBLE",
    "cWAVE HITTING FLOOR SMALLfLARGEbROTATION-FLOORPLANE SINGLE HITTING FLOORcDOUBLE HITTING ",
    "FLOORcALTERNATING HITTING FLOORbMOVEMENT-FLOORPLANE CURVE SMALLdMEDIUMdLARGEdLARGEST",
    "dCOMBINEDcHUMP SMALLcLOOP SMALLcWAVE SNAKEdSMALLdLARGEbROTATION-FLOORPLANE SINGLEcDOUBLE",
    "cALTERNATINGbMOVEMENT-FLOORPLANE SHAKING PARALLELbMOVEMENT-WALLPLANE ARM CIRCLE SMALL ",
    "SINGLEeMEDIUM SINGLEeSMALL DOUBLEeMEDIUM DOUBLEbMOVEMENT-FLOORPLANE ARM CIRCLE HITTING ",
    "WALL SMALL SINGLEgMEDIUM SINGLEgLARGE SINGLEgSMALL DOUBLEgMEDIUM DOUBLEgLARGE DOUBLE",
    "bMOVEMENT-WALLPLANE WRIST CIRCLE FRONT SINGLEfDOUBLEbMOVEMENT-FLOORPLANE WRIST CIRCLE ",
    "HITTING WALL SINGLEgDOUBLEbMOVEMENT-WALLPLANE FINGER CIRCLES SINGLEeDOUBLE",
    "bMOVEMENT-FLOORPLANE FINGER CIRCLES HITTING WALL SINGLEgDOUBLEbDYNAMIC ARROWHEAD SMALL",
    "dLARGEcFASTcSLOWcTENSEcRELAXEDcSIMULTANEOUSdALTERNATINGcEVERY OTHER TIMEcGRADUALbHEADcRIM",
    "cMOVEMENT-WALLPLANE STRAIGHTdTILTcMOVEMENT-FLOORPLANE STRAIGHTcMOVEMENT-WALLPLANE CURVE",
    "cMOVEMENT-FLOORPLANE CURVEcMOVEMENT CIRCLEbFACE DIRECTION POSITION NOSE FORWARD TILTING",
    "fUP OR DOWNiTILTINGbEYEBROWS STRAIGHT UPdNEUTRALdDOWNbDREAMY EYEBROWS NEUTRAL DOWNdDOWN ",
    "NEUTRALdUP NEUTRALdNEUTRAL UPbFOREHEAD NEUTRALcCONTACTcWRINKLEDbEYES OPENcSQUEEZEDcCLOSED",
    "bEYE BLINK SINGLEdMULTIPLEbEYES HALF OPENcWIDE OPENcHALF CLOSEDcWIDENING MOVEMENTbEYE WINK",
    "bEYELASHES UPcDOWNcFLUTTERINGbEYEGAZE-WALLPLANE STRAIGHTdDOUBLEdALTERNATING",
    "bEYEGAZE-FLOORPLANE STRAIGHTdDOUBLEdALTERNATINGbEYEGAZE-WALLPLANE CURVED",
    "bEYEGAZE-FLOORPLANE CURVEDbEYEGAZE-WALLPLANE CIRCLINGbCHEEKS PUFFEDcNEUTRALcSUCKEDbTENSE ",
    "CHEEKS HIGHdMIDDLEdLOWbEARSbNOSE NEUTRALcCONTACTcWRINKLEScWIGGLESbAIR BLOWING OUTcSUCKING ",
    "INcBLOW SMALL ROTATIONScSUCK SMALL ROTATIONSbBREATH INHALEcEXHALEbMOUTH CLOSED NEUTRAL",
    "dFORWARDdCONTACTcSMILEdWRINKLEDdOPENcFROWNdWRINKLEDdOPENcOPEN CIRCLEdFORWARDdWRINKLEDdOVAL",
    "eWRINKLEDeYAWNdRECTANGLEeWRINKLEDeYAWNcKISSdFORWARDdWRINKLEDcTENSEdFORWARDdSUCKEDbLIPS ",
    "PRESSED TOGETHERbLIP LOWER OVER UPPERcUPPER OVER LOWERbMOUTH CORNERScWRINKLES SINGLE",
    "dDOUBLEbTONGUE STICKING OUT FARcLICKING LIPScTIP BETWEEN LIPSdTOUCHING INSIDE MOUTH",
    "cINSIDE MOUTH RELAXEDcMOVES AGAINST CHEEKcCENTRE STICKING OUTdINSIDE MOUTHbTEETHcMOVEMENT",
    "cON TONGUEeMOVEMENTdLIPSeMOVEMENTcBITE LIPSbMOVEMENT-WALLPLANE JAWbMOVEMENT-FLOORPLANE JAW",
    "bNECKbHAIRbEXCITEMENTbSHOULDER HIP SPINEdPOSITIONSbWALLPLANE SHOULDER HIP MOVEbFLOORPLANE ",
    "SHOULDER HIP MOVEbSHOULDER TILTING FROM WAISTbTORSO-WALLPLANE STRAIGHT STRETCHcCURVED BEND",
    "bTORSO-FLOORPLANE TWISTINGbUPPER BODY TILTING FROM HIP JOINTSbLIMB COMBINATIONcLENGTH-1",
    "cLENGTH-2cLENGTH-3cLENGTH-4cLENGTH-5cLENGTH-6cLENGTH-7bFINGERbLOCATION-WALLPLANE SPACE",
    "bLOCATION-FLOORPLANE SPACEbLOCATION HEIGHTcWIDTHcDEPTHcHEAD NECKcTORSOcLIMBS DIGITSbCOMMA",
    "bFULL STOPbSEMICOLONbCOLONbPARENTHESIS"]⟩,
   ⟨0x1DA9B, ["aSIGNWRITING FILL MODIFIER-2cMODIFIER-3cMODIFIER-4cMODIFIER-5cMODIFIER-6"]⟩,
   ⟨0x1DAA1, ["aSIGNWRITING ROTATION MODIFIER-2cMODIFIER-3cMODIFIER-4cMODIFIER-5cMODIFIER-6",
    "cMODIFIER-7cMODIFIER-8cMODIFIER-9cMODIFIER-10cMODIFIER-11cMODIFIER-12cMODIFIER-13",
    "cMODIFIER-14cMODIFIER-15cMODIFIER-16"]⟩,
   ⟨0x1DF00, ["aLATIN SMALL LETTER FENG DIGRAPH WITH TRILLdREVERSED SCRIPT GbLETTER SMALL ",
    "CAPITAL TURNED GbSMALL LETTER REVERSED KbLETTER SMALL CAPITAL L WITH BELTbSMALL LETTER ",
    "LEZH WITH RETROFLEX HOOKdTURNED Y WITH BELTdREVERSED ENGdTURNED R WITH LONG LEG AND ",
    "RETROFLEX HOOKdT WITH HOOK AND RETROFLEX HOOKbLETTER RETROFLEX CLICK WITH RETROFLEX HOOK",
    "bSMALL LETTER ESH WITH DOUBLE BARhAND CURLdTURNED T WITH CURLbLETTER INVERTED GLOTTAL ",
    "STOP WITH CURLcSTRETCHED C WITH CURLcSMALL CAPITAL TURNED KbSMALL LETTER L WITH FISHHOOK",
    "dDEZH DIGRAPH WITH PALATAL HOOKdL WITH BELT AND PALATAL HOOKdENG WITH PALATAL HOOKdTURNED ",
    "R WITH PALATAL HOOKdR WITH FISHHOOK AND PALATAL HOOKdTESH DIGRAPH WITH PALATAL HOOKdEZH ",
    "WITH PALATAL HOOKdDEZH DIGRAPH WITH RETROFLEX HOOKdI WITH STROKE AND RETROFLEX HOOKdO ",
    "WITH RETROFLEX HOOKdTESH DIGRAPH WITH RETROFLEX HOOKdC WITH RETROFLEX HOOKdS WITH CURL"]⟩,
   ⟨0x1E000, ["aCOMBINING GLAGOLITIC LETTER AZUdBUKYdVEDEdGLAGOLIdDOBROdYESTUdZHIVETE"]⟩,
   ⟨0x1E008, ["aCOMBINING GLAGOLITIC LETTER ZEMLJAdIZHEdINITIAL IZHEdIdDJERVIdKAKOdLJUDIJE",
    "dMYSLITEdNASHIdONUdPOKOJIdRITSIdSLOVOdTVRIDOdUKUdFRITUdHERU"]⟩,
   ⟨0x1E01B, ["aCOMBINING GLAGOLITIC LETTER SHTAdTSIdCHRIVIdSHAdYERUdYERIdYATI"]⟩,
   ⟨0x1E023, ["aCOMBINING GLAGOLITIC LETTER YUdSMALL YUS"]⟩,
   ⟨0x1E026, ["aCOMBINING GLAGOLITIC LETTER YOdIOTATED SMALL YUSdBIG YUSdIOTATED BIG YUSdFITA"]⟩,
   ⟨0x1E100, ["aNYIAKENG PUACHUE HMONG LETTER MAeTSAeNTAeTAeHAeNAeXAeNKAeCAeLAeSAeZAeNCAeNTSA",
    "eKAeDAeNYAeNRAeVAeNTXAeTXAeFAeRAeQAeYAeNQAePAeXYAeNPAeDLAeNPLAeHAHeMLAePLAeGAeRRAeAeAAeIeU",
    "eOeOOeEeEEeW"]⟩,
   ⟨0x1E130, ["aNYIAKENG PUACHUE HMONG TONE-BdTONE-MdTONE-JdTONE-VdTONE-SdTONE-GdTONE-DdSIGN ",
    "FOR PERSONfTHINGfLOCATIONfANIMALfINVERTEBRATEeXW XWdSYLLABLE LENGTHENER"]⟩,
   ⟨0x1E140, ["aNYIAKENG PUACHUE HMONG DIGIT ZEROeONEeTWOeTHREEeFOUReFIVEeSIXeSEVENeEIGHTeNINE"]⟩,
   ⟨0x1E14E, ["aNYIAKENG PUACHUE HMONG LOGOGRAM NYAJdCIRCLED CA"]⟩,
   ⟨0x1E290, ["aTOTO LETTER PAcBAcTAcDAcKAcGAcMAcNAcNGAcSAcCHAcYAcWAcJAcHAcRAcLAcIcBREATHY I",
    "cIUcBREATHY IUcUcEcBREATHY EcEOcBREATHY EOcOcAEcBREATHY AEcAbSIGN RISING TONE"]⟩,
   ⟨0x1E2C0, ["aWANCHO LETTER AAcAcBAcCAcDAcGAcYAcPHAcLAcNAcPAcTAcTHAcFAcSAcSHAcJAcZAcWAcVAcKA",
    "cOcAUcRAcMAcKHAcHAcEcIcNGAcUcLLHAcTSAcTRAcONGcAANGcANGcINGcONcENcAANcNYAcUENcYIHbTONE TUP",
    "cTUPNIcKOIcKOINIbDIGIT ZEROcONEcTWOcTHREEcFOURcFIVEcSIXcSEVENcEIGHTcNINE"]⟩,
   ⟨0x1E2FF, ["aWANCHO NGUN SIGN"]⟩,
   ⟨0x1E7E0, ["aETHIOPIC SYLLABLE HHYAcHHYUcHHYIcHHYAAcHHYEEcHHYEcHHYO"]⟩,
   ⟨0x1E7E8, ["aETHIOPIC SYLLABLE GURAGE HHWAcHHWIcHHWEEcHHWE"]⟩,
   ⟨0x1E7ED, ["aETHIOPIC SYLLABLE GURAGE MWIdMWEE"]⟩,
   ⟨0x1E7F0, ["aETHIOPIC SYLLABLE GURAGE QWIdQWEEdQWEdBWIdBWEEdKWIdKWEEdKWEdGWIdGWEEdGWEdFWI",
    "dFWEEdPWIdPWEE"]⟩,
   ⟨0x1E800, ["aMENDE KIKAKUI SYLLABLE M001 KIdM002 KAdM003 KUdM065 KEEdM095 KEdM076 KOOdM048 ",
    "KOdM179 KUAdM004 WIdM005 WAdM006 WUdM126 WEEdM118 WEdM114 WOOdM045 WOdM194 WUIdM143 WEI",
    "dM061 WVIdM049 WVAdM139 WVEdM007 MINdM008 MANdM009 MUNdM059 MENdM094 MONdM154 MUANdM189 ",
    "MUENdM010 BIdM011 BAdM012 BUdM150 BEEdM097 BEdM103 BOOdM138 BOdM013 IdM014 AdM015 UdM163 ",
    "EEdM100 EdM165 OOdM147 OdM137 EIdM131 INdM135 INdM195 ANdM178 ENdM019 SIdM020 SAdM021 SU",
    "dM162 SEEdM116 SEdM136 SOOdM079 SOdM196 SIAdM025 LIdM026 LAdM027 LUdM084 LEEdM073 LEdM054 ",
    "LOOdM153 LOdM110 LONG LEdM016 DIdM017 DAdM018 DUdM089 DEEdM180 DOOdM181 DOdM022 TIdM023 TA",
    "dM024 TUdM091 TEEdM055 TEdM104 TOOdM069 TOdM028 JIdM029 JAdM030 JUdM157 JEEdM113 JEdM160 ",
    "JOOdM063 JOdM175 LONG JOdM031 YIdM032 YAdM033 YUdM109 YEEdM080 YEdM141 YOOdM121 YOdM034 FI",
    "dM035 FAdM036 FUdM078 FEEdM075 FEdM133 FOOdM088 FOdM197 FUAdM101 FANdM037 NINdM038 NAN",
    "dM039 NUNdM117 NENdM169 NONdM176 HIdM041 HAdM186 HUdM040 HEEdM096 HEdM042 HOOdM140 HO",
    "dM083 HEEIdM128 HOOUdM053 HINdM130 HANdM087 HUNdM052 HENdM193 HONdM046 HUANdM090 NGGI",
    "dM043 NGGAdM082 NGGUdM115 NGGEEdM146 NGGEdM156 NGGOOdM120 NGGOdM159 NGGAAdM127 NGGUAdM086 ",
    "LONG NGGEdM106 LONG NGGOOdM183 LONG NGGOdM155 GIdM111 GAdM168 GUdM190 GEEdM166 GUEIdM167 ",
    "GUANdM184 NGENdM057 NGONdM177 NGUANdM068 PIdM099 PAdM050 PUdM081 PEEdM051 PEdM102 POO",
    "dM066 POdM145 MBIdM062 MBAdM122 MBUdM047 MBEEdM188 MBEEdM072 MBEdM172 MBOOdM174 MBOdM187 ",
    "MBUUdM161 LONG MBEdM105 LONG MBOOdM142 LONG MBOdM132 KPIdM092 KPAdM074 KPUdM044 KPEEdM108 ",
    "KPEdM112 KPOOdM158 KPOdM124 GBIdM056 GBAdM148 GBUdM093 GBEEdM107 GBEdM071 GBOOdM070 GBO",
    "dM171 RAdM123 NDIdM129 NDAdM125 NDUdM191 NDEEdM119 NDEdM067 NDOOdM064 NDOdM152 NJAdM192 ",
    "NJUdM149 NJEEdM134 NJOOdM182 VIdM185 VAdM151 VUdM173 VEEdM085 VEdM144 VOOdM077 VOdM164 ",
    "NYINdM058 NYANdM170 NYUNdM098 NYENdM060 NYON"]⟩,
   ⟨0x1E8C7, ["aMENDE KIKAKUI DIGIT ONEdTWOdTHREEdFOURdFIVEdSIXdSEVENdEIGHTdNINEcCOMBINING ",
    "NUMBER TEENSeTENSeHUNDREDSeTHOUSANDSeTEN THOUSANDSeHUNDRED THOUSANDSeMILLIONS"]⟩,
   ⟨0x1E900, ["aADLAM CAPITAL LETTER ALIFdDAALIdLAAMdMIIMdBAdSINNYIIYHEdPEdBHEdRAdEdFAdIdOdDHA",
    "dYHEdWAWdNUNdKAFdYAdUdJIIMdCHIdHAdQAAFdGAdNYAdTUdNHAdVAdKHAdGBEdZALdKPOdSHAbSMALL LETTER ",
    "ALIFdDAALIdLAAMdMIIMdBAdSINNYIIYHEdPEdBHEdRAdEdFAdIdOdDHAdYHEdWAWdNUNdKAFdYAdUdJIIMdCHIdHA",
    "dQAAFdGAdNYAdTUdNHAdVAdKHAdGBEdZALdKPOdSHAbALIF LENGTHENERbVOWEL LENGTHENERbGEMINATION ",
    "MARKbHAMZAbCONSONANT MODIFIERbGEMINATE CONSONANT MODIFIERbNUKTAbNASALIZATION MARK"]⟩,
   ⟨0x1E950, ["aADLAM DIGIT ZEROcONEcTWOcTHREEcFOURcFIVEcSIXcSEVENcEIGHTcNINE"]⟩,
   ⟨0x1E95E, ["aADLAM INITIAL EXCLAMATION MARKcQUESTION MARK"]⟩,
   ⟨0x1EC71, ["aINDIC SIYAQ NUMBER ONEdTWOdTHREEdFOURdFIVEdSIXdSEVENdEIGHTdNINEdTENdTWENTY",
    "dTHIRTYdFORTYdFIFTYdSIXTYdSEVENTYdEIGHTYdNINETYdONE HUNDREDdTWO HUNDREDdTHREE HUNDRED",
    "dFOUR HUNDREDdFIVE HUNDREDdSIX HUNDREDdSEVEN HUNDREDdEIGHT HUNDREDdNINE HUNDREDdONE ",
    "THOUSANDdTWO THOUSANDdTHREE THOUSANDdFOUR THOUSANDdFIVE THOUSANDdSIX THOUSANDdSEVEN ",
    "THOUSANDdEIGHT THOUSANDdNINE THOUSANDdTEN THOUSANDdTWENTY THOUSANDdTHIRTY THOUSANDdFORTY ",
    "THOUSANDdFIFTY THOUSANDdSIXTY THOUSANDdSEVENTY THOUSANDdEIGHTY THOUSANDdNINETY THOUSAND",
    "dLAKHdLAKHANcLAKH MARKcNUMBER KARORdKARORANdPREFIXED ONEeTWOeTHREEeFOUReFIVEeSIXeSEVEN",
    "eEIGHTeNINEcPLACEHOLDERcFRACTION ONE QUARTEReHALFdTHREE QUARTERScRUPEE MARKcNUMBER ",
    "ALTERNATE ONEeTWOeTEN THOUSANDcALTERNATE LAKH MARK"]⟩,
   ⟨0x1ED01, ["aOTTOMAN SIYAQ NUMBER ONEdTWOdTHREEdFOURdFIVEdSIXdSEVENdEIGHTdNINEdTENdTWENTY",
    "dTHIRTYdFORTYdFIFTYdSIXTYdSEVENTYdEIGHTYdNINETYdONE HUNDREDdTWO HUNDREDdTHREE HUNDRED",
    "dFOUR HUNDREDdFIVE HUNDREDdSIX HUNDREDdSEVEN HUNDREDdEIGHT HUNDREDdNINE HUNDREDdONE ",
    "THOUSANDdTWO THOUSANDdTHREE THOUSANDdFOUR THOUSANDdFIVE THOUSANDdSIX THOUSANDdSEVEN ",
    "THOUSANDdEIGHT THOUSANDdNINE THOUSANDdTEN THOUSANDdTWENTY THOUSANDdTHIRTY THOUSANDdFORTY ",
    "THOUSANDdFIFTY THOUSANDdSIXTY THOUSANDdSEVENTY THOUSANDdEIGHTY THOUSANDdNINETY THOUSAND",
    "cMARRATANcALTERNATE NUMBER TWOeTHREEeFOUReFIVEeSIXeSEVENeEIGHTeNINEeTENeFOUR HUNDREDeSIX ",
    "HUNDREDeTWO THOUSANDeTEN THOUSANDcFRACTION ONE HALFeSIXTH"]⟩,
   ⟨0x1EE00, ["aARABIC MATHEMATICAL ALEFcBEHcJEEMcDAL"]⟩,
   ⟨0x1EE05, ["aARABIC MATHEMATICAL WAWcZAINcHAHcTAHcYEHcKAFcLAMcMEEMcNOONcSEENcAINcFEHcSAD",
    "cQAFcREHcSHEENcTEHcTHEHcKHAHcTHALcDADcZAHcGHAINcDOTLESS BEHdNOONdFEHdQAF"]⟩,
   ⟨0x1EE21, ["aARABIC MATHEMATICAL INITIAL BEHdJEEM"]⟩,
   ⟨0x1EE24, ["aARABIC MATHEMATICAL INITIAL HEH"]⟩, ⟨0x1EE27, ["aARABIC MATHEMATICAL INITIAL HAH"]⟩,
   ⟨0x1EE29, ["aARABIC MATHEMATICAL INITIAL YEHdKAFdLAMdMEEMdNOONdSEENdAINdFEHdSADdQAF"]⟩,
   ⟨0x1EE34, ["aARABIC MATHEMATICAL INITIAL SHEENdTEHdTHEHdKHAH"]⟩,
   ⟨0x1EE39, ["aARABIC MATHEMATICAL INITIAL DAD"]⟩,
   ⟨0x1EE3B, ["aARABIC MATHEMATICAL INITIAL GHAIN"]⟩,
   ⟨0x1EE42, ["aARABIC MATHEMATICAL TAILED JEEM"]⟩, ⟨0x1EE47, ["aARABIC MATHEMATICAL TAILED HAH"]⟩,
   ⟨0x1EE49, ["aARABIC MATHEMATICAL TAILED YEH"]⟩, ⟨0x1EE4B, ["aARABIC MATHEMATICAL TAILED LAM"]⟩,
   ⟨0x1EE4D, ["aARABIC MATHEMATICAL TAILED NOONdSEENdAIN"]⟩,
   ⟨0x1EE51, ["aARABIC MATHEMATICAL TAILED SADdQAF"]⟩,
   ⟨0x1EE54, ["aARABIC MATHEMATICAL TAILED SHEEN"]⟩,
   ⟨0x1EE57, ["aARABIC MATHEMATICAL TAILED KHAH"]⟩, ⟨0x1EE59, ["aARABIC MATHEMATICAL TAILED DAD"]⟩,
   ⟨0x1EE5B, ["aARABIC MATHEMATICAL TAILED GHAIN"]⟩,
   ⟨0x1EE5D, ["aARABIC MATHEMATICAL TAILED DOTLESS NOON"]⟩,
   ⟨0x1EE5F, ["aARABIC MATHEMATICAL TAILED DOTLESS QAF"]⟩,
   ⟨0x1EE61, ["aARABIC MATHEMATICAL STRETCHED BEHdJEEM"]⟩,
   ⟨0x1EE64, ["aARABIC MATHEMATICAL STRETCHED HEH"]⟩,
   ⟨0x1EE67, ["aARABIC MATHEMATICAL STRETCHED HAHdTAHdYEHdKAF"]⟩,
   ⟨0x1EE6C, ["aARABIC MATHEMATICAL STRETCHED MEEMdNOONdSEENdAINdFEHdSADdQAF"]⟩,
   ⟨0x1EE74, ["aARABIC MATHEMATICAL STRETCHED SHEENdTEHdTHEHdKHAH"]⟩,
   ⟨0x1EE79, ["aARABIC MATHEMATICAL STRETCHED DADdZAHdGHAINdDOTLESS BEH"]⟩,
   ⟨0x1EE7E, ["aARABIC MATHEMATICAL STRETCHED DOTLESS FEH"]⟩,
   ⟨0x1EE80, ["aARABIC MATHEMATICAL LOOPED ALEFdBEHdJEEMdDALdHEHdWAWdZAINdHAHdTAHdYEH"]⟩,
   ⟨0x1EE8B, ["aARABIC MATHEMATICAL LOOPED LAMdMEEMdNOONdSEENdAINdFEHdSADdQAFdREHdSHEENdTEH",
    "dTHEHdKHAHdTHALdDADdZAHdGHAIN"]⟩,
   ⟨0x1EEA1, ["aARABIC MATHEMATICAL DOUBLE-STRUCK BEHdJEEMdDAL"]⟩,
   ⟨0x1EEA5, ["aARABIC MATHEMATICAL DOUBLE-STRUCK WAWdZAINdHAHdTAHdYEH"]⟩,
   ⟨0x1EEAB, ["aARABIC MATHEMATICAL DOUBLE-STRUCK LAMdMEEMdNOONdSEENdAINdFEHdSADdQAFdREHdSHEEN",
    "dTEHdTHEHdKHAHdTHALdDADdZAHdGHAIN"]⟩,
   ⟨0x1EEF0, ["aARABIC MATHEMATICAL OPERATOR MEEM WITH HAH WITH TATWEELdHAH WITH DAL"]⟩]

end LitNote.Text.Name
