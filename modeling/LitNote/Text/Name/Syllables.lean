import LitNote.Text.Name.Run

/-!
Names of the characters from the syllabics of Canada to the Greek letters with accents.
-/

namespace LitNote.Text.Name

def syllables : List Run :=
  [⟨0x1400, ["aCANADIAN SYLLABICS HYPHENcEcAAIcIcIIcOcOOcY-CREE OOcCARRIER EEdIcAcAAcWE",
    "cWEST-CREE WEcWIcWEST-CREE WIcWIIcWEST-CREE WIIcWOcWEST-CREE WOcWOOcWEST-CREE WOOcNASKAPI ",
    "WOOcWAcWEST-CREE WAcWAAcWEST-CREE WAAcNASKAPI WAAcAIcY-CREE WcGLOTTAL STOPcFINAL ACUTE",
    "dGRAVEdBOTTOM HALF RINGdTOP HALF RINGdRIGHT HALF RINGdRINGdDOUBLE ACUTEeSHORT VERTICAL ",
    "STROKESdMIDDLE DOTdSHORT HORIZONTAL STROKEdPLUSdDOWN TACKcENcINcONcANcPEcPAAIcPIcPIIcPO",
    "cPOOcY-CREE POOcCARRIER HEEdHIcPAcPAAcPWEcWEST-CREE PWEcPWIcWEST-CREE PWIcPWIIcWEST-CREE ",
    "PWIIcPWOcWEST-CREE PWOcPWOOcWEST-CREE PWOOcPWAcWEST-CREE PWAcPWAAcWEST-CREE PWAAcY-CREE ",
    "PWAAcPcWEST-CREE PcCARRIER HcTEcTAAIcTIcTIIcTOcTOOcY-CREE TOOcCARRIER DEEdDIcTAcTAAcTWE",
    "cWEST-CREE TWEcTWIcWEST-CREE TWIcTWIIcWEST-CREE TWIIcTWOcWEST-CREE TWOcTWOOcWEST-CREE TWOO",
    "cTWAcWEST-CREE TWAcTWAAcWEST-CREE TWAAcNASKAPI TWAAcTcTTEcTTIcTTOcTTAcKEcKAAIcKIcKIIcKO",
    "cKOOcY-CREE KOOcKAcKAAcKWEcWEST-CREE KWEcKWIcWEST-CREE KWIcKWIIcWEST-CREE KWIIcKWO",
    "cWEST-CREE KWOcKWOOcWEST-CREE KWOOcKWAcWEST-CREE KWAcKWAAcWEST-CREE KWAAcNASKAPI KWAAcKcKW",
    "cSOUTH-SLAVEY KEHdKIHdKOHdKAHcCEcCAAIcCIcCIIcCOcCOOcY-CREE COOcCAcCAAcCWEcWEST-CREE CWE",
    "cCWIcWEST-CREE CWIcCWIIcWEST-CREE CWIIcCWOcWEST-CREE CWOcCWOOcWEST-CREE CWOOcCWA",
    "cWEST-CREE CWAcCWAAcWEST-CREE CWAAcNASKAPI CWAAcCcSAYISI THcMEcMAAIcMIcMIIcMOcMOOcY-CREE ",
    "MOOcMAcMAAcMWEcWEST-CREE MWEcMWIcWEST-CREE MWIcMWIIcWEST-CREE MWIIcMWOcWEST-CREE MWOcMWOO",
    "cWEST-CREE MWOOcMWAcWEST-CREE MWAcMWAAcWEST-CREE MWAAcNASKAPI MWAAcMcWEST-CREE McMH",
    "cATHAPASCAN McSAYISI McNEcNAAIcNIcNIIcNOcNOOcY-CREE NOOcNAcNAAcNWEcWEST-CREE NWEcNWA",
    "cWEST-CREE NWAcNWAAcWEST-CREE NWAAcNASKAPI NWAAcNcCARRIER NGcNHcLEcLAAIcLIcLIIcLOcLOO",
    "cY-CREE LOOcLAcLAAcLWEcWEST-CREE LWEcLWIcWEST-CREE LWIcLWIIcWEST-CREE LWIIcLWOcWEST-CREE ",
    "LWOcLWOOcWEST-CREE LWOOcLWAcWEST-CREE LWAcLWAAcWEST-CREE LWAAcLcWEST-CREE LcMEDIAL LcSE",
    "cSAAIcSIcSIIcSOcSOOcY-CREE SOOcSAcSAAcSWEcWEST-CREE SWEcSWIcWEST-CREE SWIcSWIIcWEST-CREE ",
    "SWIIcSWOcWEST-CREE SWOcSWOOcWEST-CREE SWOOcSWAcWEST-CREE SWAcSWAAcWEST-CREE SWAAcNASKAPI ",
    "SWAAcScATHAPASCAN ScSWcBLACKFOOT ScMOOSE-CREE SKcNASKAPI SKWdS-WdSPWAdSTWAdSKWAdSCWAcSHE",
    "cSHIcSHIIcSHOcSHOOcSHAcSHAAcSHWEcWEST-CREE SHWEcSHWIcWEST-CREE SHWIcSHWIIcWEST-CREE SHWII",
    "cSHWOcWEST-CREE SHWOcSHWOOcWEST-CREE SHWOOcSHWAcWEST-CREE SHWAcSHWAAcWEST-CREE SHWAAcSHcYE",
    "cYAAIcYIcYIIcYOcYOOcY-CREE YOOcYAcYAAcYWEcWEST-CREE YWEcYWIcWEST-CREE YWIcYWIIcWEST-CREE ",
    "YWIIcYWOcWEST-CREE YWOcYWOOcWEST-CREE YWOOcYWAcWEST-CREE YWAcYWAAcWEST-CREE YWAAcNASKAPI ",
    "YWAAcYcBIBLE-CREE YcWEST-CREE YcSAYISI YIcREcR-CREE REcWEST-CREE LEcRAAIcRIcRIIcROcROO",
    "cWEST-CREE LOcRAcRAAcWEST-CREE LAcRWAAcWEST-CREE RWAAcRcWEST-CREE RcMEDIAL RcFEcFAAIcFI",
    "cFIIcFOcFOOcFAcFAAcFWAAcWEST-CREE FWAAcFcTHEcN-CREE THEcTHIcN-CREE THIcTHIIcN-CREE THII",
    "cTHOcTHOOcTHAcTHAAcTHWAAcWEST-CREE THWAAcTHcTTHEcTTHIcTTHOcTTHAcTTHcTYEcTYIcTYOcTYA",
    "cNUNAVIK HEdHIdHIIdHOdHOOdHAdHAAdHcNUNAVUT HcHKcQAAIcQIcQIIcQOcQOOcQAcQAAcQcTLHEcTLHIcTLHO",
    "cTLHAcWEST-CREE REdRIdROdRAcNGAAIcNGIcNGIIcNGOcNGOOcNGAcNGAAcNGcNNGcSAYISI SHEdSHIdSHOdSHA",
    "cWOODS-CREE THEdTHIdTHOdTHAdTHcLHIcLHIIcLHOcLHOOcLHAcLHAAcLHcTH-CREE THEdTHIdTHIIdTHOdTHOO",
    "dTHAdTHAAdTHcAIVILIK BcBLACKFOOT EdIdOdAdWEdWIdWOdWAdNEdNIdNOdNAdKEdKIdKOdKAcSAYISI HEdHI",
    "dHOdHAcCARRIER GHUdGHOdGHEdGHEEdGHIdGHAdRUdROdREdREEdRIdRAdWUdWOdWEdWEEdWIdWAdHWUdHWOdHWE",
    "dHWEEdHWIdHWAdTHUdTHOdTHEdTHEEdTHIdTHAdTTUdTTOdTTEdTTEEdTTIdTTAdPUdPOdPEdPEEdPIdPAdPdGUdGO",
    "dGEdGEEdGIdGAdKHUdKHOdKHEdKHEEdKHIdKHAdKKUdKKOdKKEdKKEEdKKIdKKAdKKdNUdNOdNEdNEEdNIdNAdMU",
    "dMOdMEdMEEdMIdMAdYUdYOdYEdYEEdYIdYAdJUcSAYISI JUcCARRIER JOdJEdJEEdJIcSAYISI JIcCARRIER JA",
    "dJJUdJJOdJJEdJJEEdJJIdJJAdLUdLOdLEdLEEdLIdLAdDLUdDLOdDLEdDLEEdDLIdDLAdLHUdLHOdLHEdLHEEdLHI",
    "dLHAdTLHUdTLHOdTLHEdTLHEEdTLHIdTLHAdTLUdTLOdTLEdTLEEdTLIdTLAdZUdZOdZEdZEEdZIdZAdZdINITIAL ",
    "ZdDZUdDZOdDZEdDZEEdDZIdDZAdSUdSOdSEdSEEdSIdSAdSHUdSHOdSHEdSHEEdSHIdSHAdSHdTSUdTSOdTSEdTSEE",
    "dTSIdTSAdCHUdCHOdCHEdCHEEdCHIdCHAdTTSUdTTSOdTTSEdTTSEEdTTSIdTTSAcCHI SIGNcFULL STOPcQAI",
    "cNGAIcNNGIcNNGIIcNNGOcNNGOOcNNGAcNNGAAcWOODS-CREE THWEEdTHWIdTHWIIdTHWOdTHWOOdTHWAdTHWAA",
    "dFINAL THcBLACKFOOT WaOGHAM SPACE MARKbLETTER BEITHcLUIScFEARNcSAILcNIONcUATHcDAIRcTINNE",
    "cCOLLcCEIRTcMUINcGORTcNGEADALcSTRAIFcRUIScAILMcONNcURcEADHADHcIODHADHcEABHADHcORcUILLEANN",
    "cIFINcEAMHANCHOLLcPEITHbFEATHER MARKbREVERSED FEATHER MARK"]⟩,
   ⟨0x16A0, ["aRUNIC LETTER FEHU FEOH FE FcVcURUZ UR UcYRcYcWcTHURISAZ THURS THORNcETHcANSUZ A",
    "cOS OcAC AcAESCcLONG-BRANCH-OSS OcSHORT-TWIG-OSS OcOcOEcONcRAIDO RAD REID RcKAUNAcCEN",
    "cKAUN KcGcENGcGEBO GYFU GcGARcWUNJO WYNN WcHAGLAZ HcHAEGL HcLONG-BRANCH-HAGALL H",
    "cSHORT-TWIG-HAGALL HcNAUDIZ NYD NAUD NcSHORT-TWIG-NAUD NcDOTTED-NcISAZ IS ISS IcEcJERAN J",
    "cGERcLONG-BRANCH-AR AEcSHORT-TWIG-AR AcIWAZ EOHcPERTHO PEORTH PcALGIZ EOLHXcSOWILO S",
    "cSIGEL LONG-BRANCH-SOL ScSHORT-TWIG-SOL ScCcZcTIWAZ TIR TYR TcSHORT-TWIG-TYR TcDcBERKANAN ",
    "BEORC BJARKAN BcSHORT-TWIG-BJARKAN BcDOTTED-PcOPEN-PcEHWAZ EH EcMANNAZ MAN M",
    "cLONG-BRANCH-MADR McSHORT-TWIG-MADR McLAUKAZ LAGU LOGR LcDOTTED-LcINGWAZcINGcDAGAZ DAEG D",
    "cOTHALAN ETHEL OcEARcIORcCWEORTHcCALCcCEALCcSTANcLONG-BRANCH-YRcSHORT-TWIG-YRcICELANDIC-YR",
    "cQcXbSINGLE PUNCTUATIONbMULTIPLE PUNCTUATIONbCROSS PUNCTUATIONbARLAUG SYMBOLbTVIMADUR ",
    "SYMBOLbBELGTHOR SYMBOLbLETTER KcSHcOOcFRANKS CASKET OSeISeEHeACeAESC"]⟩,
   ⟨0x1700, ["aTAGALOG LETTER AcIcUcKAcGAcNGAcTAcDAcNAcPAcBAcMAcYAcRAcLAcWAcSAcHAbVOWEL SIGN I",
    "dUbSIGN VIRAMAcPAMUDPOD"]⟩,
   ⟨0x171F, ["aTAGALOG LETTER ARCHAIC RAaHANUNOO LETTER AcIcUcKAcGAcNGAcTAcDAcNAcPAcBAcMAcYA",
    "cRAcLAcWAcSAcHAbVOWEL SIGN IdUbSIGN PAMUDPODaPHILIPPINE SINGLE PUNCTUATIONbDOUBLE ",
    "PUNCTUATION"]⟩,
   ⟨0x1740, ["aBUHID LETTER AcIcUcKAcGAcNGAcTAcDAcNAcPAcBAcMAcYAcRAcLAcWAcSAcHAbVOWEL SIGN IdU"]⟩,
   ⟨0x1760, ["aTAGBANWA LETTER AcIcUcKAcGAcNGAcTAcDAcNAcPAcBAcMAcYA"]⟩,
   ⟨0x176E, ["aTAGBANWA LETTER LAcWAcSA"]⟩, ⟨0x1772, ["aTAGBANWA VOWEL SIGN IdU"]⟩,
   ⟨0x1780, ["aKHMER LETTER KAcKHAcKOcKHOcNGOcCAcCHAcCOcCHOcNYOcDAcTTHAcDOcTTHOcNNOcTAcTHAcTO",
    "cTHOcNOcBAcPHAcPOcPHOcMOcYOcROcLOcVOcSHAcSSOcSAcHAcLAcQAbINDEPENDENT VOWEL QAQdQAAdQIdQII",
    "dQUdQUKdQUUdQUUVdRYdRYYdLYdLYYdQEdQAIdQOO TYPE ONEfTWOdQAUbVOWEL INHERENT AQdAAcSIGN AAdI",
    "dIIdYdYYdUdUUdUAdOEdYAdIEdEdAEdAIdOOdAUbSIGN NIKAHITcREAHMUKcYUUKALEAPINTUcMUUSIKATOAN",
    "cTRIISAPcBANTOCcROBATcTOANDAKHIATcKAKABATcAHSDAcSAMYOK SANNYAcVIRIAMcCOENGcBATHAMASATcKHAN",
    "cBARIYOOSANcCAMNUC PII KUUHcLEK TOOcBEYYALcPHNAEK MUANcKOOMUUTbCURRENCY SYMBOL RIELbSIGN ",
    "AVAKRAHASANYAcATTHACAN"]⟩,
   ⟨0x17E0, ["aKHMER DIGIT ZEROcONEcTWOcTHREEcFOURcFIVEcSIXcSEVENcEIGHTcNINE"]⟩,
   ⟨0x17F0, ["aKHMER SYMBOL LEK ATTAK SONeMUOYePIIeBEIeBUONePRAMePRAM-MUOYePRAM-PIIePRAM-BEI",
    "ePRAM-BUON"]⟩,
   ⟨0x1800, ["aMONGOLIAN BIRGAbELLIPSISbCOMMAbFULL STOPbCOLONbFOUR DOTSbTODO SOFT HYPHENbSIBE ",
    "SYLLABLE BOUNDARY MARKERbMANCHU COMMAcFULL STOPbNIRUGUbFREE VARIATION SELECTOR ONEeTWO",
    "eTHREEbVOWEL SEPARATORbFREE VARIATION SELECTOR FOURbDIGIT ZEROcONEcTWOcTHREEcFOURcFIVEcSIX",
    "cSEVENcEIGHTcNINE"]⟩,
   ⟨0x1820, ["aMONGOLIAN LETTER AcEcIcOcUcOEcUEcEEcNAcANGcBAcPAcQAcGAcMAcLAcSAcSHAcTAcDAcCHA",
    "cJAcYAcRAcWAcFAcKAcKHAcTSAcZAcHAAcZRAcLHAcZHIcCHIcTODO LONG VOWEL SIGNdEdIdOdUdOEdUEdANG",
    "dBAdPAdQAdGAdMAdTAdDAdCHAdJAdTSAdYAdWAdKAdGAAdHAAdJIAdNIAdDZAcSIBE EdIdIYdUEdUdANGdKAdGA",
    "dHAdPAdSHAdTAdDAdJAdFAdGAAdHAAdTSAdZAdRAAdCHAdZHAcMANCHU IdKAdRAdFAdZHAcCHA WITH TWO DOTS"]⟩,
   ⟨0x1880, ["aMONGOLIAN LETTER ALI GALI ANUSVARA ONEeVISARGA ONEeDAMARUeUBADAMAeINVERTED ",
    "UBADAMAeBALUDAeTHREE BALUDAeAeIeKAeNGAeCAeTTAeTTHAeDDAeNNAeTAeDAePAePHAeSSAeZHAeZAeAH",
    "cTODO ALI GALI TAfZHAcMANCHU ALI GALI GHAfNGAfCAfJHAfTTAfDDHAfTAfDHAfSSAfCYAfZHAfZAcALI ",
    "GALI HALF UfYAcMANCHU ALI GALI BHAcALI GALI DAGALGAcMANCHU ALI GALI LHA"]⟩,
   ⟨0x18B0, ["aCANADIAN SYLLABICS OYcAYcAAYcWAYcPOYcPAYcPWOYcTAYcKAYcKWAYcMAYcNOYcNAYcLAYcSOY",
    "cSAYcSHOYcSHAYcSHWOYcYOYcYAYcRAYcNWIcOJIBWAY NWIcNWIIcOJIBWAY NWIIcNWOcOJIBWAY NWOcNWOO",
    "cOJIBWAY NWOOcRWEEcRWIcRWIIcRWOcRWOOcRWAcOJIBWAY PdTdKdCdMdNdSdSHcEASTERN WcWESTERN W",
    "cFINAL SMALL RINGdRAISED DOTcR-CREE RWEcWEST-CREE LOOdLAAcTHWEcTHWAcTTHWEcTTHOOcTTHAA",
    "cTLHWEcTLHOOcSAYISI SHWEdSHOOdHOOcCARRIER GWUdDENE GEEdGAAdGWAcSAYISI JUUcCARRIER JWA",
    "cBEAVER DENE LeRcCARRIER DENTAL S"]⟩,
   ⟨0x1900, ["aLIMBU VOWEL-CARRIER LETTERbLETTER KAcKHAcGAcGHAcNGAcCAcCHAcJAcJHAcYANcTAcTHAcDA",
    "cDHAcNAcPAcPHAcBAcBHAcMAcYAcRAcLAcWAcSHAcSSAcSAcHAcGYANcTRA"]⟩,
   ⟨0x1920, ["aLIMBU VOWEL SIGN AdIdUdEEdAIdOOdAUdEdObSUBJOINED LETTER YAdRAdWA"]⟩,
   ⟨0x1930, ["aLIMBU SMALL LETTER KAdNGAdANUSVARAdTAdNAdPAdMAdRAdLAbSIGN MUKPHRENGcKEMPHRENG",
    "cSA-I"]⟩,
   ⟨0x1940, ["aLIMBU SIGN LOO"]⟩,
   ⟨0x1944, ["aLIMBU EXCLAMATION MARKbQUESTION MARKbDIGIT ZEROcONEcTWOcTHREEcFOURcFIVEcSIX",
    "cSEVENcEIGHTcNINEaTAI LE LETTER KAdXAdNGAdTSAdSAdYAdTAdTHAdLAdPAdPHAdMAdFAdVAdHAdQAdKHA",
    "dTSHAdNAdAdIdEEdEHdUdOOdOdUEdEdAUEdAI"]⟩,
   ⟨0x1970, ["aTAI LE LETTER TONE-2dTONE-3dTONE-4dTONE-5dTONE-6"]⟩,
   ⟨0x1980, ["aNEW TAI LUE LETTER HIGH QAeLOW QAeHIGH KAfXAfNGAeLOW KAfXAfNGAeHIGH TSAfSAfYA",
    "eLOW TSAfSAfYAeHIGH TAfTHAfNAeLOW TAfTHAfNAeHIGH PAfPHAfMAeLOW PAfPHAfMAeHIGH FAfVAfLA",
    "eLOW FAfVAfLAeHIGH HAfDAfBAeLOW HAfDAfBAeHIGH KVAfXVAeLOW KVAfXVAeHIGH SUAeLOW SUA"]⟩,
   ⟨0x19B0, ["aNEW TAI LUE VOWEL SIGN VOWEL SHORTENERfAAfIIfUfUUfEfAEfOfOAfUEfAYfAAYfUYfOYfOAY",
    "fUEYfIYdLETTER FINAL VfNGfNfMfKfDfBdTONE MARK-1eMARK-2"]⟩,
   ⟨0x19D0, ["aNEW TAI LUE DIGIT ZEROeONEeTWOeTHREEeFOUReFIVEeSIXeSEVENeEIGHTeNINEdTHAM DIGIT ",
    "ONE"]⟩,
   ⟨0x19DE, ["aNEW TAI LUE SIGN LAEeLAEVaKHMER SYMBOL PATHAMASATcMUOY KOETcPII KOETcBEI KOET",
    "cBUON KOETcPRAM KOETcPRAM-MUOY KOETcPRAM-PII KOETcPRAM-BEI KOETcPRAM-BUON KOETcDAP KOET",
    "cDAP-MUOY KOETcDAP-PII KOETcDAP-BEI KOETcDAP-BUON KOETcDAP-PRAM KOETcTUTEYASATcMUOY ROC",
    "cPII ROCcBEI ROCcBUON ROCcPRAM ROCcPRAM-MUOY ROCcPRAM-PII ROCcPRAM-BEI ROCcPRAM-BUON ROC",
    "cDAP ROCcDAP-MUOY ROCcDAP-PII ROCcDAP-BEI ROCcDAP-BUON ROCcDAP-PRAM ROCaBUGINESE LETTER KA",
    "cGAcNGAcNGKAcPAcBAcMAcMPAcTAcDAcNAcNRAcCAcJAcNYAcNYCAcYAcRAcLAcVAcSAcAcHAbVOWEL SIGN IdUdE",
    "dOdAE"]⟩,
   ⟨0x1A1E, ["aBUGINESE PALLAWAbEND OF SECTIONaTAI THAM LETTER HIGH KAeKHAeKXAdLOW KAeKXAeKHA",
    "dNGAdHIGH CAeCHAdLOW CAeSAeCHAdNYAdRATAdHIGH RATHAdDAdLOW RATHAdRANAdHIGH TAeTHAdLOW TA",
    "eTHAdNAdBAdHIGH PAePHAeFAdLOW PAeFAePHAdMAdLOW YAdHIGH YAdRAdRUEdLAdLUEdWAdHIGH SHAeSSAeSA",
    "eHAdLLAdAdLOW HAdIdIIdUdUUdEEdOOdLAEdGREAT SAcCONSONANT SIGN MEDIAL RAfLAeLA TANG LAI",
    "cSIGN MAI KANG LAIcCONSONANT SIGN FINAL NGAeLOW PAeHIGH RATHA OR LOW PAeMAeBAeSA"]⟩,
   ⟨0x1A60, ["aTAI THAM SIGN SAKOTcVOWEL SIGN AeMAI SATeAAeTALL AAeIeIIeUEeUUEeUeUUeOeOA BELOW",
    "eOYeEeAEeOOeAIeTHAM AIeOA ABOVEcSIGN MAI KANGdTONE-1dTONE-2dKHUEN TONE-3eTONE-4eTONE-5dRA ",
    "HAAMdMAI SAMdKHUEN-LUE KARAN"]⟩,
   ⟨0x1A7F, ["aTAI THAM COMBINING CRYPTOGRAMMIC DOTcHORA DIGIT ZEROeONEeTWOeTHREEeFOUReFIVE",
    "eSIXeSEVENeEIGHTeNINE"]⟩,
   ⟨0x1A90, ["aTAI THAM THAM DIGIT ZEROeONEeTWOeTHREEeFOUReFIVEeSIXeSEVENeEIGHTeNINE"]⟩,
   ⟨0x1AA0, ["aTAI THAM SIGN WIANGdWIANGWAAKdSAWANdKEOWdHOYdDOKMAIdREVERSED ROTATED RANAdMAI ",
    "YAMOKdKAANdKAANKUUdSATKAANdSATKAANKUUdHANGdCAANG"]⟩,
   ⟨0x1AB0, ["aCOMBINING DOUBLED CIRCUMFLEX ACCENTbDIAERESIS-RINGbINFINITYbDOWNWARDS ARROW",
    "bTRIPLE DOTbX-X BELOWbWIGGLY LINE BELOWbOPEN MARK BELOWbDOUBLE OPEN MARK BELOWbLIGHT ",
    "CENTRALIZATION STROKE BELOWbSTRONG CENTRALIZATION STROKE BELOWbPARENTHESES ABOVEbDOUBLE ",
    "PARENTHESES ABOVEbPARENTHESES BELOWcOVERLAYbLATIN SMALL LETTER W BELOWeTURNED W BELOW",
    "bLEFT PARENTHESIS ABOVE LEFTbRIGHT PARENTHESIS ABOVE RIGHTbLEFT PARENTHESIS BELOW LEFT",
    "bRIGHT PARENTHESIS BELOW RIGHTbSQUARE BRACKETS ABOVEbNUMBER SIGN ABOVEbINVERTED DOUBLE ",
    "ARCH ABOVEbPLUS SIGN ABOVEbDOUBLE PLUS SIGN ABOVEeBELOWbTRIPLE ACUTE ACCENTbLATIN SMALL ",
    "LETTER INSULAR GfRfT"]⟩,
   ⟨0x1B00, ["aBALINESE SIGN ULU RICEMdCANDRAcCECEKcSURANGcBISAHbLETTER AKARAdTEDUNGcIKARA",
    "dTEDUNGcUKARAdTEDUNGcRA REPAeTEDUNGcLA LENGAeTEDUNGcEKARAcAIKARAcOKARAdTEDUNGcKAdMAHAPRANA",
    "cGAdGORAcNGAcCAdLACAcJAdJERAcNYAcTA LATIKdMURDA MAHAPRANAcDA MURDA ALPAPRANAeMAHAPRANAcNA ",
    "RAMBATcTAdTAWAcDAdMADUcNAcPAdKAPALcBAdKEMBANGcMAcYAcRAcLAcWAcSA SAGAdSAPAdcHAbSIGN REREKAN",
    "bVOWEL SIGN TEDUNGdULUeSARIdSUKUeILUTdRA REPAfTEDUNGdLA LENGAfTEDUNGdTALINGeREPAeTEDUNG",
    "eREPA TEDUNGdPEPETeTEDUNGbADEG ADEGbLETTER KAF SASAKcKHOT SASAKcTZIR SASAKcEF SASAKcVE ",
    "SASAKcZAL SASAKcASYURA SASAKcARCHAIC JNYA"]⟩,
   ⟨0x1B50, ["aBALINESE DIGIT ZEROcONEcTWOcTHREEcFOURcFIVEcSIXcSEVENcEIGHTcNINEbPANTIbPAMADA",
    "bWINDUbCARIK PAMUNGKAHcSIKIcPARERENbPAMENENGbMUSICAL SYMBOL DONGdDENGdDUNGdDANGeSURANG",
    "dDINGdDAENGdDEUNGdDAINGdDANG GEDEdCOMBINING TEGEHeENDEPeKEMPULeKEMPLIeJEGOGANeKEMPUL WITH ",
    "JEGOGANeKEMPLI WITH JEGOGANeBENDEeGONGdRIGHT-HAND OPEN DUGfDAGeCLOSED TUKfTAKdLEFT-HAND ",
    "OPEN PANGfPUNGeCLOSED PLAKfPLUKeOPEN PINGbPANTI LANTANGbPAMADA LANTANG"]⟩,
   ⟨0x1B80, ["aSUNDANESE SIGN PANYECEKcPANGLAYARcPANGWISADbLETTER AcIcUcAEcOcEcEUcKAcQAcGAcNGA",
    "cCAcJAcZAcNYAcTAcDAcNAcPAcFAcVAcBAcMAcYAcRAcLAcWAcSAcXAcHAbCONSONANT SIGN PAMINGKAL",
    "dPANYAKRAdPANYIKUbVOWEL SIGN PANGHULUdPANYUKUdPANAELAENGdPANOLONGdPAMEPETdPANEULEUNGbSIGN ",
    "PAMAAEHcVIRAMAbCONSONANT SIGN PASANGAN MAeWAbLETTER KHAcSYAbDIGIT ZEROcONEcTWOcTHREEcFOUR",
    "cFIVEcSIXcSEVENcEIGHTcNINEbAVAGRAHAbLETTER REUcLEUcBHAcFINAL KdMaBATAK LETTER A",
    "cSIMALUNGUN AcHAcSIMALUNGUN HAcMANDAILING HAcBAcKARO BAcPAcSIMALUNGUN PAcNAcMANDAILING NA",
    "cWAcSIMALUNGUN WAcPAKPAK WAcGAcSIMALUNGUN GAcJAcDAcRAcSIMALUNGUN RAcMAcSIMALUNGUN MA",
    "cSOUTHERN TAcNORTHERN TAcSAcSIMALUNGUN SAcMANDAILING SAcYAcSIMALUNGUN YAcNGAcLA",
    "cSIMALUNGUN LAcNYAcCAcNDAcMBAcIcUbSIGN TOMPIbVOWEL SIGN EdPAKPAK EdEEdIdKARO IdOdKARO OdU",
    "eFOR SIMALUNGUN SAbCONSONANT SIGN NGdHbPANGOLATbPANONGONAN"]⟩,
   ⟨0x1BFC, ["aBATAK SYMBOL BINDU NA METEKdPINARBORASdJUDULdPANGOLATaLEPCHA LETTER KAcKLAcKHA",
    "cGAcGLAcNGAcCAcCHAcJAcNYAcTAcTHAcDAcNAcPAcPLAcPHAcFAcFLAcBAcBLAcMAcMLAcTSAcTSHAcDZAcYAcRA",
    "cLAcHAcHLAcVAcSAcSHAcWAcAbSUBJOINED LETTER YAdRAbVOWEL SIGN AAdIdOdOOdUdUUdEbCONSONANT ",
    "SIGN KdMdLdNdPdRdTdNYIN-DOdKANGbSIGN RANcNUKTA"]⟩,
   ⟨0x1C3B, ["aLEPCHA PUNCTUATION TA-ROLcNYET THYOOM TA-ROLcCER-WAcTSHOOK CER-WAdbDIGIT ZERO",
    "cONEcTWOcTHREEcFOURcFIVEcSIXcSEVENcEIGHTcNINE"]⟩,
   ⟨0x1C4D, ["aLEPCHA LETTER TTAcTTHAcDDAaOL CHIKI DIGIT ZEROdONEdTWOdTHREEdFOURdFIVEdSIX",
    "dSEVENdEIGHTdNINEcLETTER LAdATdAGdANGdALdLAAdAAKdAAJdAAMdAAWdLIdISdIHdINYdIRdLUdUCdUDdUNN",
    "dUYdLEdEPdEDDdENdERRdLOdOTTdOBdOVdOHcMU TTUDDAGcGAAHLAA TTUDDAAGcMU-GAAHLAA TTUDDAAGcRELAA",
    "cPHAARKAAcAHADcPUNCTUATION MUCAADdDOUBLE MUCAADaCYRILLIC SMALL LETTER ROUNDED VE",
    "dLONG-LEGGED DEdNARROW OdWIDE ESdTALL TEdTHREE-LEGGED TEdTALL HARD SIGNeYATdUNBLENDED UK"]⟩,
   ⟨0x1C90, ["aGEORGIAN MTAVRULI CAPITAL LETTER ANeBANeGANeDONeENeVINeZENeTANeINeKANeLASeMAN",
    "eNAReONePAReZHAReRAEeSANeTAReUNePHAReKHAReGHANeQAReSHINeCHINeCANeJILeCILeCHAReXANeJHANeHAE",
    "eHEeHIEeWEeHAReHOEeFIeYNeELIFIeTURNED GANeAIN"]⟩,
   ⟨0x1CBD, ["aGEORGIAN MTAVRULI CAPITAL LETTER AENeHARD SIGNeLABIAL SIGNaSUNDANESE ",
    "PUNCTUATION BINDU SURYAdPANGLONGdPURNAMAdCAKRAdLEU SATANGAdKA SATANGAdDA SATANGAdBA ",
    "SATANGA"]⟩,
   ⟨0x1CD0, ["aVEDIC TONE KARSHANAcSHARAcPRENKHAbSIGN NIHSHVASAcYAJURVEDIC MIDLINE SVARITA",
    "bTONE YAJURVEDIC AGGRAVATED INDEPENDENT SVARITAdINDEPENDENT SVARITAdKATHAKA INDEPENDENT ",
    "SVARITAcCANDRA BELOWcYAJURVEDIC KATHAKA INDEPENDENT SVARITA SCHROEDERcDOUBLE SVARITA",
    "cTRIPLE SVARITAcKATHAKA ANUDATTAcDOT BELOWcTWO DOTS BELOWcTHREE DOTS BELOWcRIGVEDIC ",
    "KASHMIRI INDEPENDENT SVARITAcATHARVAVEDIC INDEPENDENT SVARITAbSIGN VISARGA SVARITAdUDATTA",
    "cREVERSED VISARGA UDATTAcVISARGA ANUDATTAcREVERSED VISARGA ANUDATTAcVISARGA UDATTA WITH ",
    "TAILdANUDATTA WITH TAILcANUSVARA ANTARGOMUKHAdBAHIRGOMUKHAdVAMAGOMUKHAeWITH TAILcTIRYAK",
    "cHEXIFORM LONG ANUSVARAcLONG ANUSVARAcRTHANG LONG ANUSVARAcANUSVARA UBHAYATO MUKHA",
    "cARDHAVISARGAcROTATED ARDHAVISARGAbTONE CANDRA ABOVEbSIGN JIHVAMULIYAcUPADHMANIYAcATIKRAMA",
    "bTONE RING ABOVEcDOUBLE RING ABOVEbSIGN DOUBLE ANUSVARA ANTARGOMUKHA"]⟩,
   ⟨0x1D00, ["aLATIN LETTER SMALL CAPITAL AeAEbSMALL LETTER TURNED AEbLETTER SMALL CAPITAL ",
    "BARRED BeCeDeETHeEbSMALL LETTER TURNED OPEN EeIbLETTER SMALL CAPITAL JeKeL WITH STROKEeM",
    "eREVERSED NeOeOPEN ObSMALL LETTER SIDEWAYS OeOPEN OeO WITH STROKEdTURNED OEbLETTER SMALL ",
    "CAPITAL OUbSMALL LETTER TOP HALF OdBOTTOM HALF ObLETTER SMALL CAPITAL PeREVERSED ReTURNED ",
    "ReTeUbSMALL LETTER SIDEWAYS UeDIAERESIZED UeTURNED MbLETTER SMALL CAPITAL VeWeZeEZH",
    "cVOICED LARYNGEAL SPIRANTcAINaGREEK LETTER SMALL CAPITAL GAMMAeLAMDAePIeRHOePSIaCYRILLIC ",
    "LETTER SMALL CAPITAL ELaMODIFIER LETTER CAPITAL AdAEdBdBARRED BdDdEdREVERSED EdGdHdIdJdKdL",
    "dMdNdREVERSED NdOdOUdPdRdTdUdWcSMALL AdTURNED AdALPHAdTURNED AEdBdDdEdSCHWAdOPEN EdTURNED ",
    "OPEN EdGdTURNED IdKdMdENGdOdOPEN OdTOP HALF OdBOTTOM HALF OdPdTdUdSIDEWAYS UdTURNED MdV",
    "dAINdBETAdGREEK GAMMAdDELTAdGREEK PHIdCHIaLATIN SUBSCRIPT SMALL LETTER IeReUeVaGREEK ",
    "SUBSCRIPT SMALL LETTER BETAeGAMMAeRHOePHIeCHIaLATIN SMALL LETTER UEdB WITH MIDDLE TILDEdD ",
    "WITH MIDDLE TILDEdF WITH MIDDLE TILDEdM WITH MIDDLE TILDEdN WITH MIDDLE TILDEdP WITH ",
    "MIDDLE TILDEdR WITH MIDDLE TILDEfFISHHOOK AND MIDDLE TILDEdS WITH MIDDLE TILDEdT WITH ",
    "MIDDLE TILDEdZ WITH MIDDLE TILDEdTURNED GaMODIFIER LETTER CYRILLIC ENaLATIN SMALL LETTER ",
    "INSULAR GdTH WITH STRIKETHROUGHcCAPITAL LETTER I WITH STROKEcLETTER IOTA WITH STROKEdP ",
    "WITH STROKEcCAPITAL LETTER U WITH STROKEcLETTER UPSILON WITH STROKEdB WITH PALATAL HOOKdD ",
    "WITH PALATAL HOOKdF WITH PALATAL HOOKdG WITH PALATAL HOOKdK WITH PALATAL HOOKdL WITH ",
    "PALATAL HOOKdM WITH PALATAL HOOKdN WITH PALATAL HOOKdP WITH PALATAL HOOKdR WITH PALATAL ",
    "HOOKdS WITH PALATAL HOOKdESH WITH PALATAL HOOKdV WITH PALATAL HOOKdX WITH PALATAL HOOKdZ ",
    "WITH PALATAL HOOKdA WITH RETROFLEX HOOKdALPHA WITH RETROFLEX HOOKdD WITH HOOK AND TAILdE ",
    "WITH RETROFLEX HOOKdOPEN E WITH RETROFLEX HOOKdREVERSED OPEN E WITH RETROFLEX HOOKdSCHWA ",
    "WITH RETROFLEX HOOKdI WITH RETROFLEX HOOKdOPEN O WITH RETROFLEX HOOKdESH WITH RETROFLEX ",
    "HOOKdU WITH RETROFLEX HOOKdEZH WITH RETROFLEX HOOKaMODIFIER LETTER SMALL TURNED ALPHAdC",
    "eWITH CURLdETHdREVERSED OPEN EdFdDOTLESS J WITH STROKEdSCRIPT GdTURNED HdI WITH STROKE",
    "dIOTAdCAPITAL IfWITH STROKEdJ WITH CROSSED-TAILdL WITH RETROFLEX HOOKfPALATAL HOOK",
    "dCAPITAL LdM WITH HOOKdTURNED M WITH LONG LEGdN WITH LEFT HOOKfRETROFLEX HOOKdCAPITAL N",
    "dBARRED OdPHIdS WITH HOOKdESHdT WITH PALATAL HOOKdU BARdUPSILONdCAPITAL UdV WITH HOOK",
    "dTURNED VdZeWITH RETROFLEX HOOKfCURLdEZHdTHETAaCOMBINING DOTTED GRAVE ACCENTcACUTE ACCENT",
    "bSNAKE BELOWbSUSPENSION MARKbMACRON-ACUTEbGRAVE-MACRONbMACRON-GRAVEbACUTE-MACRON",
    "bGRAVE-ACUTE-GRAVEbACUTE-GRAVE-ACUTEbLATIN SMALL LETTER R BELOWbBREVE-MACRONbMACRON-BREVE",
    "bDOUBLE CIRCUMFLEX ABOVEbOGONEK ABOVEbZIGZAG BELOWbIS BELOWbUR ABOVEbUS ABOVEbLATIN SMALL ",
    "LETTER FLATTENED OPEN A ABOVEeAEeAOeAVeC CEDILLAeINSULAR DeETHeGcLETTER SMALL CAPITAL G",
    "cSMALL LETTER KeLcLETTER SMALL CAPITAL LfMcSMALL LETTER NcLETTER SMALL CAPITAL NfRcSMALL ",
    "LETTER R ROTUNDAeSeLONG SeZeALPHAeBeBETAeSCHWAeFeL WITH DOUBLE MIDDLE TILDEeO WITH LIGHT ",
    "CENTRALIZATION STROKEePeESHeU WITH LIGHT CENTRALIZATION STROKEeWeA WITH DIAERESISeO WITH ",
    "DIAERESISeU WITH DIAERESISbUP TACK ABOVEbKAVYKA ABOVE RIGHTdLEFTbDOT ABOVE LEFTbWIDE ",
    "INVERTED BRIDGE BELOWbDOT BELOW LEFTbDELETION MARKbDOUBLE INVERTED BREVE BELOWbALMOST ",
    "EQUAL TO BELOWbLEFT ARROWHEAD ABOVEbRIGHT ARROWHEAD AND DOWN ARROWHEAD BELOWaLATIN ",
    "CAPITAL LETTER A WITH RING BELOWbSMALL LETTER A WITH RING BELOWbCAPITAL LETTER B WITH DOT ",
    "ABOVEbSMALL LETTER B WITH DOT ABOVEbCAPITAL LETTER B WITH DOT BELOWbSMALL LETTER B WITH ",
    "DOT BELOWbCAPITAL LETTER B WITH LINE BELOWbSMALL LETTER B WITH LINE BELOWbCAPITAL LETTER ",
    "C WITH CEDILLA AND ACUTEbSMALL LETTER C WITH CEDILLA AND ACUTEbCAPITAL LETTER D WITH DOT ",
    "ABOVEbSMALL LETTER D WITH DOT ABOVEbCAPITAL LETTER D WITH DOT BELOWbSMALL LETTER D WITH ",
    "DOT BELOWbCAPITAL LETTER D WITH LINE BELOWbSMALL LETTER D WITH LINE BELOWbCAPITAL LETTER ",
    "D WITH CEDILLAbSMALL LETTER D WITH CEDILLAbCAPITAL LETTER D WITH CIRCUMFLEX BELOWbSMALL ",
    "LETTER D WITH CIRCUMFLEX BELOWbCAPITAL LETTER E WITH MACRON AND GRAVEbSMALL LETTER E WITH ",
    "MACRON AND GRAVEbCAPITAL LETTER E WITH MACRON AND ACUTEbSMALL LETTER E WITH MACRON AND ",
    "ACUTEbCAPITAL LETTER E WITH CIRCUMFLEX BELOWbSMALL LETTER E WITH CIRCUMFLEX BELOWbCAPITAL ",
    "LETTER E WITH TILDE BELOWbSMALL LETTER E WITH TILDE BELOWbCAPITAL LETTER E WITH CEDILLA ",
    "AND BREVEbSMALL LETTER E WITH CEDILLA AND BREVEbCAPITAL LETTER F WITH DOT ABOVEbSMALL ",
    "LETTER F WITH DOT ABOVEbCAPITAL LETTER G WITH MACRONbSMALL LETTER G WITH MACRONbCAPITAL ",
    "LETTER H WITH DOT ABOVEbSMALL LETTER H WITH DOT ABOVEbCAPITAL LETTER H WITH DOT BELOW",
    "bSMALL LETTER H WITH DOT BELOWbCAPITAL LETTER H WITH DIAERESISbSMALL LETTER H WITH ",
    "DIAERESISbCAPITAL LETTER H WITH CEDILLAbSMALL LETTER H WITH CEDILLAbCAPITAL LETTER H WITH ",
    "BREVE BELOWbSMALL LETTER H WITH BREVE BELOWbCAPITAL LETTER I WITH TILDE BELOWbSMALL ",
    "LETTER I WITH TILDE BELOWbCAPITAL LETTER I WITH DIAERESIS AND ACUTEbSMALL LETTER I WITH ",
    "DIAERESIS AND ACUTEbCAPITAL LETTER K WITH ACUTEbSMALL LETTER K WITH ACUTEbCAPITAL LETTER ",
    "K WITH DOT BELOWbSMALL LETTER K WITH DOT BELOWbCAPITAL LETTER K WITH LINE BELOWbSMALL ",
    "LETTER K WITH LINE BELOWbCAPITAL LETTER L WITH DOT BELOWbSMALL LETTER L WITH DOT BELOW",
    "bCAPITAL LETTER L WITH DOT BELOW AND MACRONbSMALL LETTER L WITH DOT BELOW AND MACRON",
    "bCAPITAL LETTER L WITH LINE BELOWbSMALL LETTER L WITH LINE BELOWbCAPITAL LETTER L WITH ",
    "CIRCUMFLEX BELOWbSMALL LETTER L WITH CIRCUMFLEX BELOWbCAPITAL LETTER M WITH ACUTEbSMALL ",
    "LETTER M WITH ACUTEbCAPITAL LETTER M WITH DOT ABOVEbSMALL LETTER M WITH DOT ABOVEbCAPITAL ",
    "LETTER M WITH DOT BELOWbSMALL LETTER M WITH DOT BELOWbCAPITAL LETTER N WITH DOT ABOVE",
    "bSMALL LETTER N WITH DOT ABOVEbCAPITAL LETTER N WITH DOT BELOWbSMALL LETTER N WITH DOT ",
    "BELOWbCAPITAL LETTER N WITH LINE BELOWbSMALL LETTER N WITH LINE BELOWbCAPITAL LETTER N ",
    "WITH CIRCUMFLEX BELOWbSMALL LETTER N WITH CIRCUMFLEX BELOWbCAPITAL LETTER O WITH TILDE ",
    "AND ACUTEbSMALL LETTER O WITH TILDE AND ACUTEbCAPITAL LETTER O WITH TILDE AND DIAERESIS",
    "bSMALL LETTER O WITH TILDE AND DIAERESISbCAPITAL LETTER O WITH MACRON AND GRAVEbSMALL ",
    "LETTER O WITH MACRON AND GRAVEbCAPITAL LETTER O WITH MACRON AND ACUTEbSMALL LETTER O WITH ",
    "MACRON AND ACUTEbCAPITAL LETTER P WITH ACUTEbSMALL LETTER P WITH ACUTEbCAPITAL LETTER P ",
    "WITH DOT ABOVEbSMALL LETTER P WITH DOT ABOVEbCAPITAL LETTER R WITH DOT ABOVEbSMALL LETTER ",
    "R WITH DOT ABOVEbCAPITAL LETTER R WITH DOT BELOWbSMALL LETTER R WITH DOT BELOWbCAPITAL ",
    "LETTER R WITH DOT BELOW AND MACRONbSMALL LETTER R WITH DOT BELOW AND MACRONbCAPITAL ",
    "LETTER R WITH LINE BELOWbSMALL LETTER R WITH LINE BELOWbCAPITAL LETTER S WITH DOT ABOVE",
    "bSMALL LETTER S WITH DOT ABOVEbCAPITAL LETTER S WITH DOT BELOWbSMALL LETTER S WITH DOT ",
    "BELOWbCAPITAL LETTER S WITH ACUTE AND DOT ABOVEbSMALL LETTER S WITH ACUTE AND DOT ABOVE",
    "bCAPITAL LETTER S WITH CARON AND DOT ABOVEbSMALL LETTER S WITH CARON AND DOT ABOVE",
    "bCAPITAL LETTER S WITH DOT BELOW AND DOT ABOVEbSMALL LETTER S WITH DOT BELOW AND DOT ABOVE",
    "bCAPITAL LETTER T WITH DOT ABOVEbSMALL LETTER T WITH DOT ABOVEbCAPITAL LETTER T WITH DOT ",
    "BELOWbSMALL LETTER T WITH DOT BELOWbCAPITAL LETTER T WITH LINE BELOWbSMALL LETTER T WITH ",
    "LINE BELOWbCAPITAL LETTER T WITH CIRCUMFLEX BELOWbSMALL LETTER T WITH CIRCUMFLEX BELOW",
    "bCAPITAL LETTER U WITH DIAERESIS BELOWbSMALL LETTER U WITH DIAERESIS BELOWbCAPITAL LETTER ",
    "U WITH TILDE BELOWbSMALL LETTER U WITH TILDE BELOWbCAPITAL LETTER U WITH CIRCUMFLEX BELOW",
    "bSMALL LETTER U WITH CIRCUMFLEX BELOWbCAPITAL LETTER U WITH TILDE AND ACUTEbSMALL LETTER ",
    "U WITH TILDE AND ACUTEbCAPITAL LETTER U WITH MACRON AND DIAERESISbSMALL LETTER U WITH ",
    "MACRON AND DIAERESISbCAPITAL LETTER V WITH TILDEbSMALL LETTER V WITH TILDEbCAPITAL LETTER ",
    "V WITH DOT BELOWbSMALL LETTER V WITH DOT BELOWbCAPITAL LETTER W WITH GRAVEbSMALL LETTER W ",
    "WITH GRAVEbCAPITAL LETTER W WITH ACUTEbSMALL LETTER W WITH ACUTEbCAPITAL LETTER W WITH ",
    "DIAERESISbSMALL LETTER W WITH DIAERESISbCAPITAL LETTER W WITH DOT ABOVEbSMALL LETTER W ",
    "WITH DOT ABOVEbCAPITAL LETTER W WITH DOT BELOWbSMALL LETTER W WITH DOT BELOWbCAPITAL ",
    "LETTER X WITH DOT ABOVEbSMALL LETTER X WITH DOT ABOVEbCAPITAL LETTER X WITH DIAERESIS",
    "bSMALL LETTER X WITH DIAERESISbCAPITAL LETTER Y WITH DOT ABOVEbSMALL LETTER Y WITH DOT ",
    "ABOVEbCAPITAL LETTER Z WITH CIRCUMFLEXbSMALL LETTER Z WITH CIRCUMFLEXbCAPITAL LETTER Z ",
    "WITH DOT BELOWbSMALL LETTER Z WITH DOT BELOWbCAPITAL LETTER Z WITH LINE BELOWbSMALL ",
    "LETTER Z WITH LINE BELOWdH WITH LINE BELOWdT WITH DIAERESISdW WITH RING ABOVEdY WITH RING ",
    "ABOVEdA WITH RIGHT HALF RINGdLONG S WITH DOT ABOVEgDIAGONAL STROKEgHIGH STROKEbCAPITAL ",
    "LETTER SHARP SbSMALL LETTER DELTAbCAPITAL LETTER A WITH DOT BELOWbSMALL LETTER A WITH DOT ",
    "BELOWbCAPITAL LETTER A WITH HOOK ABOVEbSMALL LETTER A WITH HOOK ABOVEbCAPITAL LETTER A ",
    "WITH CIRCUMFLEX AND ACUTEbSMALL LETTER A WITH CIRCUMFLEX AND ACUTEbCAPITAL LETTER A WITH ",
    "CIRCUMFLEX AND GRAVEbSMALL LETTER A WITH CIRCUMFLEX AND GRAVEbCAPITAL LETTER A WITH ",
    "CIRCUMFLEX AND HOOK ABOVEbSMALL LETTER A WITH CIRCUMFLEX AND HOOK ABOVEbCAPITAL LETTER A ",
    "WITH CIRCUMFLEX AND TILDEbSMALL LETTER A WITH CIRCUMFLEX AND TILDEbCAPITAL LETTER A WITH ",
    "CIRCUMFLEX AND DOT BELOWbSMALL LETTER A WITH CIRCUMFLEX AND DOT BELOWbCAPITAL LETTER A ",
    "WITH BREVE AND ACUTEbSMALL LETTER A WITH BREVE AND ACUTEbCAPITAL LETTER A WITH BREVE AND ",
    "GRAVEbSMALL LETTER A WITH BREVE AND GRAVEbCAPITAL LETTER A WITH BREVE AND HOOK ABOVE",
    "bSMALL LETTER A WITH BREVE AND HOOK ABOVEbCAPITAL LETTER A WITH BREVE AND TILDEbSMALL ",
    "LETTER A WITH BREVE AND TILDEbCAPITAL LETTER A WITH BREVE AND DOT BELOWbSMALL LETTER A ",
    "WITH BREVE AND DOT BELOWbCAPITAL LETTER E WITH DOT BELOWbSMALL LETTER E WITH DOT BELOW",
    "bCAPITAL LETTER E WITH HOOK ABOVEbSMALL LETTER E WITH HOOK ABOVEbCAPITAL LETTER E WITH ",
    "TILDEbSMALL LETTER E WITH TILDEbCAPITAL LETTER E WITH CIRCUMFLEX AND ACUTEbSMALL LETTER E ",
    "WITH CIRCUMFLEX AND ACUTEbCAPITAL LETTER E WITH CIRCUMFLEX AND GRAVEbSMALL LETTER E WITH ",
    "CIRCUMFLEX AND GRAVEbCAPITAL LETTER E WITH CIRCUMFLEX AND HOOK ABOVEbSMALL LETTER E WITH ",
    "CIRCUMFLEX AND HOOK ABOVEbCAPITAL LETTER E WITH CIRCUMFLEX AND TILDEbSMALL LETTER E WITH ",
    "CIRCUMFLEX AND TILDEbCAPITAL LETTER E WITH CIRCUMFLEX AND DOT BELOWbSMALL LETTER E WITH ",
    "CIRCUMFLEX AND DOT BELOWbCAPITAL LETTER I WITH HOOK ABOVEbSMALL LETTER I WITH HOOK ABOVE",
    "bCAPITAL LETTER I WITH DOT BELOWbSMALL LETTER I WITH DOT BELOWbCAPITAL LETTER O WITH DOT ",
    "BELOWbSMALL LETTER O WITH DOT BELOWbCAPITAL LETTER O WITH HOOK ABOVEbSMALL LETTER O WITH ",
    "HOOK ABOVEbCAPITAL LETTER O WITH CIRCUMFLEX AND ACUTEbSMALL LETTER O WITH CIRCUMFLEX AND ",
    "ACUTEbCAPITAL LETTER O WITH CIRCUMFLEX AND GRAVEbSMALL LETTER O WITH CIRCUMFLEX AND GRAVE",
    "bCAPITAL LETTER O WITH CIRCUMFLEX AND HOOK ABOVEbSMALL LETTER O WITH CIRCUMFLEX AND HOOK ",
    "ABOVEbCAPITAL LETTER O WITH CIRCUMFLEX AND TILDEbSMALL LETTER O WITH CIRCUMFLEX AND TILDE",
    "bCAPITAL LETTER O WITH CIRCUMFLEX AND DOT BELOWbSMALL LETTER O WITH CIRCUMFLEX AND DOT ",
    "BELOWbCAPITAL LETTER O WITH HORN AND ACUTEbSMALL LETTER O WITH HORN AND ACUTEbCAPITAL ",
    "LETTER O WITH HORN AND GRAVEbSMALL LETTER O WITH HORN AND GRAVEbCAPITAL LETTER O WITH ",
    "HORN AND HOOK ABOVEbSMALL LETTER O WITH HORN AND HOOK ABOVEbCAPITAL LETTER O WITH HORN ",
    "AND TILDEbSMALL LETTER O WITH HORN AND TILDEbCAPITAL LETTER O WITH HORN AND DOT BELOW",
    "bSMALL LETTER O WITH HORN AND DOT BELOWbCAPITAL LETTER U WITH DOT BELOWbSMALL LETTER U ",
    "WITH DOT BELOWbCAPITAL LETTER U WITH HOOK ABOVEbSMALL LETTER U WITH HOOK ABOVEbCAPITAL ",
    "LETTER U WITH HORN AND ACUTEbSMALL LETTER U WITH HORN AND ACUTEbCAPITAL LETTER U WITH ",
    "HORN AND GRAVEbSMALL LETTER U WITH HORN AND GRAVEbCAPITAL LETTER U WITH HORN AND HOOK ",
    "ABOVEbSMALL LETTER U WITH HORN AND HOOK ABOVEbCAPITAL LETTER U WITH HORN AND TILDEbSMALL ",
    "LETTER U WITH HORN AND TILDEbCAPITAL LETTER U WITH HORN AND DOT BELOWbSMALL LETTER U WITH ",
    "HORN AND DOT BELOWbCAPITAL LETTER Y WITH GRAVEbSMALL LETTER Y WITH GRAVEbCAPITAL LETTER Y ",
    "WITH DOT BELOWbSMALL LETTER Y WITH DOT BELOWbCAPITAL LETTER Y WITH HOOK ABOVEbSMALL ",
    "LETTER Y WITH HOOK ABOVEbCAPITAL LETTER Y WITH TILDEbSMALL LETTER Y WITH TILDEbCAPITAL ",
    "LETTER MIDDLE-WELSH LLbSMALL LETTER MIDDLE-WELSH LLbCAPITAL LETTER MIDDLE-WELSH VbSMALL ",
    "LETTER MIDDLE-WELSH VbCAPITAL LETTER Y WITH LOOPbSMALL LETTER Y WITH LOOPaGREEK SMALL ",
    "LETTER ALPHA WITH PSILIfDASIAfPSILI AND VARIAfDASIA AND VARIAfPSILI AND OXIAfDASIA AND ",
    "OXIAfPSILI AND PERISPOMENIfDASIA AND PERISPOMENIbCAPITAL LETTER ALPHA WITH PSILIfDASIA",
    "fPSILI AND VARIAfDASIA AND VARIAfPSILI AND OXIAfDASIA AND OXIAfPSILI AND PERISPOMENI",
    "fDASIA AND PERISPOMENIbSMALL LETTER EPSILON WITH PSILIfDASIAfPSILI AND VARIAfDASIA AND ",
    "VARIAfPSILI AND OXIAfDASIA AND OXIA"]⟩,
   ⟨0x1F18, ["aGREEK CAPITAL LETTER EPSILON WITH PSILIfDASIAfPSILI AND VARIAfDASIA AND VARIA",
    "fPSILI AND OXIAfDASIA AND OXIA"]⟩,
   ⟨0x1F20, ["aGREEK SMALL LETTER ETA WITH PSILIfDASIAfPSILI AND VARIAfDASIA AND VARIAfPSILI ",
    "AND OXIAfDASIA AND OXIAfPSILI AND PERISPOMENIfDASIA AND PERISPOMENIbCAPITAL LETTER ETA ",
    "WITH PSILIfDASIAfPSILI AND VARIAfDASIA AND VARIAfPSILI AND OXIAfDASIA AND OXIAfPSILI AND ",
    "PERISPOMENIfDASIA AND PERISPOMENIbSMALL LETTER IOTA WITH PSILIfDASIAfPSILI AND VARIA",
    "fDASIA AND VARIAfPSILI AND OXIAfDASIA AND OXIAfPSILI AND PERISPOMENIfDASIA AND PERISPOMENI",
    "bCAPITAL LETTER IOTA WITH PSILIfDASIAfPSILI AND VARIAfDASIA AND VARIAfPSILI AND OXIA",
    "fDASIA AND OXIAfPSILI AND PERISPOMENIfDASIA AND PERISPOMENIbSMALL LETTER OMICRON WITH ",
    "PSILIfDASIAfPSILI AND VARIAfDASIA AND VARIAfPSILI AND OXIAfDASIA AND OXIA"]⟩,
   ⟨0x1F48, ["aGREEK CAPITAL LETTER OMICRON WITH PSILIfDASIAfPSILI AND VARIAfDASIA AND VARIA",
    "fPSILI AND OXIAfDASIA AND OXIA"]⟩,
   ⟨0x1F50, ["aGREEK SMALL LETTER UPSILON WITH PSILIfDASIAfPSILI AND VARIAfDASIA AND VARIA",
    "fPSILI AND OXIAfDASIA AND OXIAfPSILI AND PERISPOMENIfDASIA AND PERISPOMENI"]⟩,
   ⟨0x1F59, ["aGREEK CAPITAL LETTER UPSILON WITH DASIA"]⟩,
   ⟨0x1F5B, ["aGREEK CAPITAL LETTER UPSILON WITH DASIA AND VARIA"]⟩,
   ⟨0x1F5D, ["aGREEK CAPITAL LETTER UPSILON WITH DASIA AND OXIA"]⟩,
   ⟨0x1F5F, ["aGREEK CAPITAL LETTER UPSILON WITH DASIA AND PERISPOMENIbSMALL LETTER OMEGA ",
    "WITH PSILIfDASIAfPSILI AND VARIAfDASIA AND VARIAfPSILI AND OXIAfDASIA AND OXIAfPSILI AND ",
    "PERISPOMENIfDASIA AND PERISPOMENIbCAPITAL LETTER OMEGA WITH PSILIfDASIAfPSILI AND VARIA",
    "fDASIA AND VARIAfPSILI AND OXIAfDASIA AND OXIAfPSILI AND PERISPOMENIfDASIA AND PERISPOMENI",
    "bSMALL LETTER ALPHA WITH VARIAfOXIAdEPSILON WITH VARIAfOXIAdETA WITH VARIAfOXIAdIOTA WITH ",
    "VARIAfOXIAdOMICRON WITH VARIAfOXIAdUPSILON WITH VARIAfOXIAdOMEGA WITH VARIAfOXIA"]⟩,
   ⟨0x1F80, ["aGREEK SMALL LETTER ALPHA WITH PSILI AND YPOGEGRAMMENIfDASIA AND YPOGEGRAMMENI",
    "fPSILI AND VARIA AND YPOGEGRAMMENIfDASIA AND VARIA AND YPOGEGRAMMENIfPSILI AND OXIA AND ",
    "YPOGEGRAMMENIfDASIA AND OXIA AND YPOGEGRAMMENIfPSILI AND PERISPOMENI AND YPOGEGRAMMENI",
    "fDASIA AND PERISPOMENI AND YPOGEGRAMMENIbCAPITAL LETTER ALPHA WITH PSILI AND ",
    "PROSGEGRAMMENIfDASIA AND PROSGEGRAMMENIfPSILI AND VARIA AND PROSGEGRAMMENIfDASIA AND ",
    "VARIA AND PROSGEGRAMMENIfPSILI AND OXIA AND PROSGEGRAMMENIfDASIA AND OXIA AND ",
    "PROSGEGRAMMENIfPSILI AND PERISPOMENI AND PROSGEGRAMMENIfDASIA AND PERISPOMENI AND ",
    "PROSGEGRAMMENIbSMALL LETTER ETA WITH PSILI AND YPOGEGRAMMENIfDASIA AND YPOGEGRAMMENI",
    "fPSILI AND VARIA AND YPOGEGRAMMENIfDASIA AND VARIA AND YPOGEGRAMMENIfPSILI AND OXIA AND ",
    "YPOGEGRAMMENIfDASIA AND OXIA AND YPOGEGRAMMENIfPSILI AND PERISPOMENI AND YPOGEGRAMMENI",
    "fDASIA AND PERISPOMENI AND YPOGEGRAMMENIbCAPITAL LETTER ETA WITH PSILI AND PROSGEGRAMMENI",
    "fDASIA AND PROSGEGRAMMENIfPSILI AND VARIA AND PROSGEGRAMMENIfDASIA AND VARIA AND ",
    "PROSGEGRAMMENIfPSILI AND OXIA AND PROSGEGRAMMENIfDASIA AND OXIA AND PROSGEGRAMMENIfPSILI ",
    "AND PERISPOMENI AND PROSGEGRAMMENIfDASIA AND PERISPOMENI AND PROSGEGRAMMENIbSMALL LETTER ",
    "OMEGA WITH PSILI AND YPOGEGRAMMENIfDASIA AND YPOGEGRAMMENIfPSILI AND VARIA AND ",
    "YPOGEGRAMMENIfDASIA AND VARIA AND YPOGEGRAMMENIfPSILI AND OXIA AND YPOGEGRAMMENIfDASIA ",
    "AND OXIA AND YPOGEGRAMMENIfPSILI AND PERISPOMENI AND YPOGEGRAMMENIfDASIA AND PERISPOMENI ",
    "AND YPOGEGRAMMENIbCAPITAL LETTER OMEGA WITH PSILI AND PROSGEGRAMMENIfDASIA AND ",
    "PROSGEGRAMMENIfPSILI AND VARIA AND PROSGEGRAMMENIfDASIA AND VARIA AND PROSGEGRAMMENI",
    "fPSILI AND OXIA AND PROSGEGRAMMENIfDASIA AND OXIA AND PROSGEGRAMMENIfPSILI AND ",
    "PERISPOMENI AND PROSGEGRAMMENIfDASIA AND PERISPOMENI AND PROSGEGRAMMENIbSMALL LETTER ",
    "ALPHA WITH VRACHYfMACRONfVARIA AND YPOGEGRAMMENIfYPOGEGRAMMENIfOXIA AND YPOGEGRAMMENI"]⟩,
   ⟨0x1FB6, ["aGREEK SMALL LETTER ALPHA WITH PERISPOMENIgAND YPOGEGRAMMENIbCAPITAL LETTER ",
    "ALPHA WITH VRACHYfMACRONfVARIAfOXIAfPROSGEGRAMMENIbKORONISbPROSGEGRAMMENIbPSILI",
    "bPERISPOMENIbDIALYTIKA AND PERISPOMENIbSMALL LETTER ETA WITH VARIA AND YPOGEGRAMMENI",
    "fYPOGEGRAMMENIfOXIA AND YPOGEGRAMMENI"]⟩,
   ⟨0x1FC6, ["aGREEK SMALL LETTER ETA WITH PERISPOMENIgAND YPOGEGRAMMENIbCAPITAL LETTER ",
    "EPSILON WITH VARIAfOXIAdETA WITH VARIAfOXIAfPROSGEGRAMMENIbPSILI AND VARIAdOXIA",
    "dPERISPOMENIbSMALL LETTER IOTA WITH VRACHYfMACRONfDIALYTIKA AND VARIAhOXIA"]⟩,
   ⟨0x1FD6, ["aGREEK SMALL LETTER IOTA WITH PERISPOMENIfDIALYTIKA AND PERISPOMENIbCAPITAL ",
    "LETTER IOTA WITH VRACHYfMACRONfVARIAfOXIA"]⟩,
   ⟨0x1FDD, ["aGREEK DASIA AND VARIAdOXIAdPERISPOMENIbSMALL LETTER UPSILON WITH VRACHYfMACRON",
    "fDIALYTIKA AND VARIAhOXIAdRHO WITH PSILIfDASIAdUPSILON WITH PERISPOMENIfDIALYTIKA AND ",
    "PERISPOMENIbCAPITAL LETTER UPSILON WITH VRACHYfMACRONfVARIAfOXIAdRHO WITH DASIAbDIALYTIKA ",
    "AND VARIAdOXIAbVARIA"]⟩,
   ⟨0x1FF2, ["aGREEK SMALL LETTER OMEGA WITH VARIA AND YPOGEGRAMMENIfYPOGEGRAMMENIfOXIA AND ",
    "YPOGEGRAMMENI"]⟩,
   ⟨0x1FF6, ["aGREEK SMALL LETTER OMEGA WITH PERISPOMENIgAND YPOGEGRAMMENIbCAPITAL LETTER ",
    "OMICRON WITH VARIAfOXIAdOMEGA WITH VARIAfOXIAfPROSGEGRAMMENIbOXIAbDASIA"]⟩]

end LitNote.Text.Name
